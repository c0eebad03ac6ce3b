import SchemaBeans.Proofs.Resolution.Rounds

/-!
# Resolution — what a reference comes to mean

The *meaning* of a property is the property itself, or, for a reference, what it becomes when it
takes over the meaning of its target (`Model.meaning`).  In a stable model every target means
itself, so a reference that has been replaced never stands in the way of one that has not: the
references may be visited in any order, and each path ends with its meaning
(`property?_foldl_resolveOne`).

`resolve?_isResolved` puts this together with the rounds before it.  What is left of a model is a
part of it; a property that was no reference is unchanged; and one that was a reference has the
meaning of a target that is still there.
-/

namespace SchemaBeans.Schema

/-- `q` is `p` with the meaning of `referent`: it keeps its name, its path, a description of its own
and its own dimensions, and takes over the rest. -/
structure Property.Inherits (p referent q : Property) : Prop where
  name : q.name = p.name
  path : q.path = p.path
  description : q.description = if p.description = "" then referent.description else p.description
  typeName : q.typeName = referent.typeName
  possibleValues : q.possibleValues = referent.possibleValues
  resolvedType : q.resolvedType = referent.resolvedType
  scalar : p.isCollection = false → q.cardinality = referent.cardinality
  collection : p.isCollection = true →
    q.cardinality.min = p.cardinality.min + referent.cardinality.min ∧
      q.cardinality.dimensions = p.cardinality.dimensions + referent.cardinality.dimensions

theorem Property.inherits_resolved (p referent : Property) :
    p.Inherits referent (p.resolved referent) where
  name := rfl
  path := rfl
  description := rfl
  typeName := rfl
  possibleValues := rfl
  resolvedType := rfl
  scalar h := by simp [resolved, h]
  collection h := by simp [resolved, h, Cardinality.sum]

namespace Model

variable {m n : Model} {path q reference : String} {p : Property}

/-! ### Meanings -/

/-- The property, with the meaning of its target if it is a reference. -/
def meaning (m : Model) (p : Property) : Property :=
  match p.reference?.bind m.property? with
  | some referent => p.resolved referent
  | none => p

theorem meaning_of_not_isReference (h : p.isReference = false) : m.meaning p = p := by
  rw [meaning, Property.reference?_eq_none_iff.mpr h]
  rfl

theorem meaning_of_reference? {referent : Property} (hr : p.reference? = some reference)
    (ht : m.property? reference = some referent) : m.meaning p = p.resolved referent := by
  rw [meaning, hr, Option.bind_some, ht]

@[simp] theorem name_meaning (m : Model) (p : Property) : (m.meaning p).name = p.name := by
  rw [meaning]
  split <;> rfl

/-- A referent means itself. -/
theorem IsReferent.map_meaning (h : m.IsReferent reference) :
    (m.property? reference).map m.meaning = m.property? reference := by
  obtain ⟨t, ht, href, -⟩ := h
  rw [ht, Option.map_some, meaning_of_not_isReference href]

/-! ### Visiting references -/

/-- The entries of a list of references are references, each with its target. -/
theorem Indexed.mem_references_iff (h : m.Indexed) :
    (path, reference) ∈ m.references ↔
      ∃ p, m.property? path = some p ∧ p.reference? = some reference := by
  simp only [references, List.mem_filterMap, Option.map_eq_some_iff, Prod.mk.injEq]
  refine ⟨?_, ?_⟩
  · rintro ⟨p, hp, _, hr, rfl, rfl⟩
    exact ⟨p, h.mem_values_iff.mp hp, hr⟩
  · rintro ⟨p, hp, hr⟩
    refine ⟨p, ?_, reference, hr, h _ _ hp, rfl⟩
    rw [h.mem_values_iff, h _ _ hp]
    exact hp

/-- No reference is listed twice. -/
theorem Indexed.nodup_references (h : m.Indexed) : (m.references.map Prod.fst).Nodup := by
  have e : m.references.map Prod.fst =
      (m.properties.values.filter Property.isReference).map Property.path := by
    rw [references]
    induction m.properties.values with
    | nil => rfl
    | cons p ps ih =>
      cases hr : p.reference? with
      | none => simpa [Property.isReference, hr] using ih
      | some reference => simpa [Property.isReference, hr] using ih
  rw [e]
  exact h.nodup_paths.sublist (List.filter_sublist.map _)

theorem property?_resolveAt {referent : Property} (ht : m.property? reference = some referent) :
    (m.resolveAt path reference).property? q =
      if q = path then (m.property? q).map (·.resolved referent) else m.property? q := by
  rw [resolveAt, ht]
  simp only [property?, Std.ExtTreeMap.getElem?_modify, Std.LawfulEqCmp.compare_eq_iff_eq]
  by_cases h : q = path
  · simp [h]
  · simp [h, Ne.symm h]

@[simp] theorem type?_resolveAt : (m.resolveAt path reference).type? q = m.type? q := by
  simp only [resolveAt]
  split <;> rfl

end Model

namespace Resolution

variable {x : Resolution} {m : Model} {q : String}

@[simp] theorem model_resolveOne (x : Resolution) (entry : String × String) :
    (x.resolveOne entry).model = x.model.resolveAt entry.1 entry.2 :=
  rfl

/-- One visit gives the property at its path its meaning and leaves all others, wherever the
references visited before are. -/
theorem property?_resolveOne {visited : List String}
    (hx : ∀ q, x.model.property? q =
      if q ∈ visited then (m.property? q).map m.meaning else m.property? q)
    {path reference : String} {p : Property} (hp : m.property? path = some p)
    (hr : p.reference? = some reference) (ht : m.IsReferent reference) (hn : path ∉ visited) :
    (x.resolveOne (path, reference)).model.property? q =
      if q ∈ path :: visited then (m.property? q).map m.meaning else m.property? q := by
  obtain ⟨t, htm, -⟩ := id ht
  -- the target means itself, visited or not
  have hxt : x.model.property? reference = some t := by
    rw [hx, ht.map_meaning, ite_self, htm]
  rw [model_resolveOne, Model.property?_resolveAt hxt]
  by_cases e : q = path
  · subst e
    rw [if_pos rfl, hx, if_neg hn, hp, if_pos List.mem_cons_self, Option.map_some,
      Option.map_some, Model.meaning_of_reference? hr htm]
  · rw [if_neg e, hx]
    simp [e]

/-- **Visiting references.**  Visits to references that lead to referents, none of them twice, give
each visited path its meaning and leave all others. -/
theorem property?_foldl_resolveOne (order : List (String × String)) {visited : List String}
    (horder : ∀ entry ∈ order, ∃ p, m.property? entry.1 = some p ∧
      p.reference? = some entry.2 ∧ m.IsReferent entry.2)
    (hnodup : (order.map Prod.fst ++ visited).Nodup)
    (hx : ∀ q, x.model.property? q =
      if q ∈ visited then (m.property? q).map m.meaning else m.property? q) :
    (order.foldl resolveOne x).model.property? q =
      if q ∈ order.map Prod.fst ++ visited then (m.property? q).map m.meaning
      else m.property? q := by
  induction order generalizing x visited with
  | nil => exact hx q
  | cons entry order ih =>
    obtain ⟨p, hp, hr, ht⟩ := horder entry List.mem_cons_self
    have hperm : (order.map Prod.fst ++ entry.1 :: visited).Perm
        ((entry :: order).map Prod.fst ++ visited) := List.perm_middle
    have hn : entry.1 ∉ visited := fun h =>
      (List.nodup_cons.mp hnodup).1 (List.mem_append_right _ h)
    rw [List.foldl_cons, ih (fun e he => horder e (List.mem_cons_of_mem _ he))
      (hperm.nodup_iff.mpr hnodup) fun q => property?_resolveOne hx hp hr ht hn]
    simp only [hperm.mem_iff]

theorem type?_foldl_resolveOne (order : List (String × String)) (x : Resolution) :
    (order.foldl resolveOne x).model.type? q = x.model.type? q := by
  induction order generalizing x with
  | nil => rfl
  | cons entry order ih => rw [List.foldl_cons, ih, model_resolveOne, Model.type?_resolveAt]

/-- In a stable model the listed references lead to referents. -/
theorem exists_of_mem_references (h : m.Indexed) (hs : m.brokenReferences = [])
    {entry : String × String} (he : entry ∈ m.references) :
    ∃ p, m.property? entry.1 = some p ∧ p.reference? = some entry.2 ∧ m.IsReferent entry.2 := by
  obtain ⟨p, hp, hr⟩ := h.mem_references_iff.mp he
  exact ⟨p, hp, hr, h.brokenReferences_eq_nil_iff.mp hs _ _ _ hp hr⟩

/-- In a stable model the references may be visited in any order: every path ends with its
meaning. -/
theorem property?_foldl_references (h : x.model.Indexed) (hs : x.model.brokenReferences = [])
    {order : List (String × String)} (horder : order.Perm x.model.references) :
    (order.foldl resolveOne x).model.property? q =
      (x.model.property? q).map x.model.meaning := by
  have hmem : ∀ entry, entry ∈ order ↔ entry ∈ x.model.references := fun _ => horder.mem_iff
  have hstart : ∀ q, x.model.property? q =
      if q ∈ ([] : List String) then (x.model.property? q).map x.model.meaning
      else x.model.property? q := fun q => by simp
  rw [property?_foldl_resolveOne order ?_ ?_ hstart]
  · rw [List.append_nil]
    split
    · rfl
    · next hn =>
      cases hp : x.model.property? q with
      | none => rfl
      | some p =>
        rw [Option.map_some, Model.meaning_of_not_isReference]
        rw [← Property.reference?_eq_none_iff, Option.eq_none_iff_forall_ne_some]
        intro reference hr
        refine hn (List.mem_map.mpr ⟨(q, reference), ?_, rfl⟩)
        exact (hmem _).mpr (h.mem_references_iff.mpr ⟨p, hp, hr⟩)
  · exact fun entry he => exists_of_mem_references h hs ((hmem entry).mp he)
  · rw [List.append_nil]
    exact (horder.map Prod.fst).nodup_iff.mpr h.nodup_references

end Resolution

/-- What is left of a model when no reference is broken. -/
def Model.settled (m : Model) (errors : Errors) : Model :=
  (Resolution.settle { model := m, errors := errors }).model

theorem Model.Indexed.isPart_settled {m : Model} (hm : m.Indexed) (errors : Errors) :
    (m.settled errors).IsPart m :=
  (Resolution.settles_settle (x := { model := m, errors := errors }) hm).isPart

theorem Model.Indexed.settled {m : Model} (hm : m.Indexed) (errors : Errors) :
    (m.settled errors).Indexed :=
  (hm.isPart_settled errors).indexed hm

theorem Model.Indexed.brokenReferences_settled {m : Model} (hm : m.Indexed) (errors : Errors) :
    (m.settled errors).brokenReferences = [] :=
  (Resolution.settles_settle (x := { model := m, errors := errors }) hm).brokenReferences_eq_nil

/-- If no reference is broken, all is left. -/
theorem Model.settled_of_stable {m : Model} (h : m.brokenReferences = []) (errors : Errors) :
    m.settled errors = m := by
  rw [settled, Resolution.settle, Resolution.settleWithin_of_stable h]

/-- A resolved model has at each path the meaning of the property that is left there. -/
theorem property?_resolve {m : Model} (hm : m.Indexed) (errors : Errors) (q : String) :
    (resolve m errors).model.property? q =
      ((m.settled errors).property? q).map (m.settled errors).meaning :=
  Resolution.property?_foldl_references (hm.settled errors) (hm.brokenReferences_settled errors)
    (List.Perm.refl _)

/-- It has the types that are left. -/
theorem type?_resolve (m : Model) (errors : Errors) (q : String) :
    (resolve m errors).model.type? q = (m.settled errors).type? q :=
  Resolution.type?_foldl_resolveOne _ _

namespace Model

variable {m n s : Model}

/-! ### Resolved models -/

/-- `n` is what is left of `m` when the references of a part of it have been replaced. -/
structure IsResolved (m n : Model) : Prop where
  /-- No property is new. -/
  property {path : String} {q : Property} :
    n.property? path = some q → ∃ p, m.property? path = some p
  /-- No type is new. -/
  type {path : String} : (n.type? path).isSome → (m.type? path).isSome
  /-- A property that was no reference is unchanged. -/
  unchanged {path : String} {p q : Property} : m.property? path = some p →
    n.property? path = some q → p.isReference = false → q = p
  /-- A property that was a reference has the meaning of its target, which is still there and was
  no reference. -/
  inherited {path reference : String} {p q : Property} : m.property? path = some p →
    n.property? path = some q → p.reference? = some reference →
      ∃ t, m.property? reference = some t ∧ n.property? reference = some t ∧
        t.isReference = false ∧ t.typeName ≠ "" ∧ p.resolve t = .ok q ∧ p.Inherits t q

/-- The meanings of a stable part make a resolved model. -/
theorem isResolved_of_meaning (hm : m.Indexed) (hfit : m.ReferencesFit) (hs : s.IsPart m)
    (hstable : s.brokenReferences = [])
    (hn : ∀ q, n.property? q = (s.property? q).map s.meaning)
    (ht : ∀ q, n.type? q = s.type? q) : IsResolved m n := by
  -- what is left at a path is the meaning of what was there
  have hsm : ∀ {path p q}, m.property? path = some p → n.property? path = some q →
      s.property? path = some p ∧ q = s.meaning p := by
    intro path p q hp hq
    rw [hn, Option.map_eq_some_iff] at hq
    obtain ⟨p', hp', rfl⟩ := hq
    rw [hs.property hp', Option.some.injEq] at hp
    exact ⟨hp ▸ hp', by rw [hp]⟩
  refine ⟨fun {path q} hq => ?_, fun {path} h => ?_, fun {path p q} hp hq href => ?_,
    fun {path reference p q} hp hq hr => ?_⟩
  · rw [hn, Option.map_eq_some_iff] at hq
    obtain ⟨p, hp, -⟩ := hq
    exact ⟨p, hs.property hp⟩
  · rw [ht] at h
    exact hs.type h
  · obtain ⟨-, rfl⟩ := hsm hp hq
    exact meaning_of_not_isReference href
  · obtain ⟨hps, rfl⟩ := hsm hp hq
    have href := (hs.indexed hm).brokenReferences_eq_nil_iff.mp hstable _ _ _ hps hr
    obtain ⟨t, hts, hnot, htype⟩ := id href
    have htm := hs.property hts
    have hfits : (p.resolved t).cardinality.Fits := by
      refine hfit p ?_ reference hr t htm
      rw [hm.mem_values_iff, hm _ _ hp]
      exact hp
    rw [meaning_of_reference? hr hts]
    refine ⟨t, htm, ?_, hnot, htype, ?_, p.inherits_resolved t⟩
    · rw [hn, href.map_meaning, hts]
    · rw [Property.resolve, if_pos hfits]

theorem ReferencesFit.of_isPart (h : m.ReferencesFit) (hm : m.Indexed) (hs : s.IsPart m) :
    s.ReferencesFit := by
  intro p hp reference hr t ht
  rw [(hs.indexed hm).mem_values_iff] at hp
  exact h p (hm.mem_values_iff.mpr (hs.property hp)) reference hr t (hs.property ht)

/-- **Resolution.**  Resolving an indexed model whose bounds remain words succeeds.  What it leaves
is a resolved part of the model, in which nothing is a reference and whatever was one has a type;
and visiting the references in any other order leaves the same model. -/
theorem resolve?_isResolved {m : Model} (errors : Errors) (hm : m.Indexed)
    (hfit : m.ReferencesFit) :
    ∃ r, resolve? m errors = .ok r ∧ m.IsResolved r.model ∧
      (∀ path q, r.model.property? path = some q → q.isReference = false) ∧
      (∀ path p q, m.property? path = some p → p.isReference = true →
        r.model.property? path = some q → q.typeName ≠ "") ∧
      ∀ order : List (String × String),
        order.Perm (Resolution.settle { model := m, errors := errors }).model.references →
          (order.foldl Resolution.resolveOne
            (Resolution.settle { model := m, errors := errors })).model = r.model := by
  have hset := Resolution.settles_settle (x := { model := m, errors := errors }) hm
  have hpart := hset.isPart
  have hidx := hpart.indexed hm
  have hstable := hset.brokenReferences_eq_nil
  have hres : m.IsResolved (resolve m errors).model :=
    isResolved_of_meaning hm hfit hpart hstable
      (fun _ => Resolution.property?_foldl_references hidx hstable (List.Perm.refl _))
      fun _ => Resolution.type?_foldl_resolveOne _ _
  refine ⟨resolve m errors, ?_, hres, fun path q hq => ?_, fun path p q hp href hq => ?_,
    fun order horder => ?_⟩
  · rw [resolve?, if_pos (hfit.of_isPart hm hpart)]
  · obtain ⟨p, hp⟩ := hres.property hq
    cases href : p.isReference with
    | false => rwa [hres.unchanged hp hq href]
    | true =>
      obtain ⟨reference, hr⟩ := Property.exists_reference?_of_isReference href
      obtain ⟨t, -, -, hnot, -, -, hinh⟩ := hres.inherited hp hq hr
      simpa [Property.isReference, Property.reference?, hinh.typeName] using hnot
  · obtain ⟨reference, hr⟩ := Property.exists_reference?_of_isReference href
    obtain ⟨t, -, -, -, htype, -, hinh⟩ := hres.inherited hp hq hr
    rwa [hinh.typeName]
  · refine ext_lookup (fun _ => ?_) fun _ => ?_
    · exact (Resolution.property?_foldl_references hidx hstable horder).trans
        (Resolution.property?_foldl_references hidx hstable (List.Perm.refl _)).symm
    · exact (Resolution.type?_foldl_resolveOne _ _).trans
        (Resolution.type?_foldl_resolveOne _ _).symm

/-- An array of references to an array, and a reference to that one in turn, which is broken. -/
def nestedArrays : Model :=
  ((({} : Model).insertProperty
      { Property.atPath "#/components/schemas/tags" with
        typeName := "string", cardinality := { min := 1, dimensions := 1 } }).insertProperty
      { Property.atPath "#/components/schemas/lists" with
        typeName := "$ref:#/components/schemas/tags", cardinality := { dimensions := 1 } }
    ).insertProperty
      { Property.atPath "#/components/schemas/chain" with
        typeName := "$ref:#/components/schemas/lists" }

/-- The array of arrays has the dimensions of both; the chain is gone. -/
theorem nestedArrays_resolved :
    nestedArrays.Indexed ∧ nestedArrays.ReferencesFit ∧
      ∃ r, resolve? nestedArrays {} = .ok r ∧ nestedArrays.IsResolved r.model ∧
        (r.model.property? "#/components/schemas/lists").map (·.cardinality) = some ⟨1, 2⟩ ∧
        r.model.property? "#/components/schemas/chain" = none := by
  have hidx : nestedArrays.Indexed :=
    ((indexed_empty.insertProperty _).insertProperty _).insertProperty _
  have hfit : nestedArrays.ReferencesFit := by decide +kernel
  obtain ⟨r, hr, hres, -⟩ := resolve?_isResolved {} hidx hfit
  have hlook : (resolve? nestedArrays {}).toOption.all (fun r =>
      (r.model.property? "#/components/schemas/lists").map (·.cardinality) = some ⟨1, 2⟩ ∧
        r.model.property? "#/components/schemas/chain" = none) = true := by
    decide +kernel
  rw [hr] at hlook
  exact ⟨hidx, hfit, r, hr, hres, of_decide_eq_true hlook⟩

end Model

end SchemaBeans.Schema
