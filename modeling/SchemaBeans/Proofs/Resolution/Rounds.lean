import SchemaBeans.Proofs.Model
import SchemaBeans.Schema.Resolution

/-!
# Resolution — rounds of dropping broken references

A path is a *referent* of a model if its property can lend its meaning: it is no reference itself
and has a type.  A reference is broken exactly when its target is no referent, so a model without
broken references (a *stable* one) is a model whose references all lead to referents
(`brokenReferences_eq_nil_iff`).

Broken references are dropped round by round, each round from the list with which it begins.
`Settles` leaves open which references of that list a round takes up, and in which order; those of
`Resolution.settle` take up the list as it is (`settles_settle`).  In an indexed model each round
takes out a property at least, so there are no more rounds than properties, and further ones change
nothing (`settleWithin_eq_settle`).
-/

namespace SchemaBeans.Schema

namespace Property

theorem reference?_eq_none_iff {p : Property} : p.reference? = none ↔ p.isReference = false := by
  simp [isReference]

theorem exists_reference?_of_isReference {p : Property} (h : p.isReference = true) :
    ∃ reference, p.reference? = some reference :=
  Option.isSome_iff_exists.mp h

end Property

namespace Model

variable {m m' : Model} {path reference root : String}

/-! ### Referents -/

/-- The property at a path can lend its meaning: it is no reference and has a type. -/
def IsReferent (m : Model) (path : String) : Prop :=
  ∃ t, m.property? path = some t ∧ t.isReference = false ∧ t.typeName ≠ ""

/-- A target is in order exactly if it is a referent. -/
theorem targetFault?_eq_none_iff : m.targetFault? reference = none ↔ m.IsReferent reference := by
  simp only [targetFault?, IsReferent]
  cases m.property? reference with
  | none => simp
  | some t => cases h : t.isReference <;> simp [h]

/-- The error of a broken reference names its path and its target. -/
theorem brokenReference?_eq_some_iff {p : Property} {e : SchemaError} :
    m.brokenReference? p = some e ↔
      ∃ reference fault, p.reference? = some reference ∧ m.targetFault? reference = some fault ∧
        e = ⟨p.path, .target fault reference⟩ := by
  simp only [brokenReference?, Option.bind_eq_some_iff, Option.map_eq_some_iff]
  refine ⟨?_, ?_⟩
  · rintro ⟨reference, hr, fault, hf, rfl⟩
    exact ⟨reference, fault, hr, hf, rfl⟩
  · rintro ⟨reference, fault, hr, hf, rfl⟩
    exact ⟨reference, hr, fault, hf, rfl⟩

/-- An error is listed exactly if the property at its path is a broken reference with this error. -/
theorem Indexed.mem_brokenReferences_iff (h : m.Indexed) {e : SchemaError} :
    e ∈ m.brokenReferences ↔
      ∃ p, m.property? e.path = some p ∧ m.brokenReference? p = some e := by
  rw [brokenReferences, List.mem_filterMap]
  refine ⟨?_, ?_⟩
  · rintro ⟨p, hp, he⟩
    obtain ⟨reference, fault, -, -, rfl⟩ := brokenReference?_eq_some_iff.mp he
    exact ⟨p, h.mem_values_iff.mp hp, he⟩
  · rintro ⟨p, hp, he⟩
    refine ⟨p, ?_, he⟩
    rw [h.mem_values_iff, h _ _ hp]
    exact hp

/-- **Stability.**  No reference is broken exactly when every reference leads to a referent. -/
theorem Indexed.brokenReferences_eq_nil_iff (h : m.Indexed) :
    m.brokenReferences = [] ↔
      ∀ path p reference, m.property? path = some p → p.reference? = some reference →
        m.IsReferent reference := by
  refine ⟨?_, ?_⟩
  · intro hb path p reference hp hr
    by_contra hn
    rw [← targetFault?_eq_none_iff, ← ne_eq, Option.ne_none_iff_exists'] at hn
    obtain ⟨fault, hf⟩ := hn
    -- the fault of the target would be listed
    have he : (⟨p.path, .target fault reference⟩ : SchemaError) ∈ m.brokenReferences := by
      rw [h.mem_brokenReferences_iff]
      refine ⟨p, ?_, brokenReference?_eq_some_iff.mpr ⟨reference, fault, hr, hf, rfl⟩⟩
      rw [h _ _ hp]
      exact hp
    rw [hb] at he
    cases he
  · intro hall
    rw [List.eq_nil_iff_forall_not_mem]
    intro e he
    obtain ⟨p, hp, hb⟩ := h.mem_brokenReferences_iff.mp he
    obtain ⟨reference, fault, hr, hf, -⟩ := brokenReference?_eq_some_iff.mp hb
    rw [targetFault?_eq_none_iff.mpr (hall _ p reference hp hr)] at hf
    cases hf

/-! ### Parts of a model -/

/-- Every property of `m'` is one of `m`, unchanged, and every type of `m'` is at the path of a type
of `m`. -/
structure IsPart (m' m : Model) : Prop where
  property {path : String} {p : Property} : m'.property? path = some p → m.property? path = some p
  type {path : String} : (m'.type? path).isSome → (m.type? path).isSome

theorem IsPart.refl (m : Model) : IsPart m m := ⟨id, id⟩

theorem IsPart.trans {m'' : Model} (h : IsPart m'' m') (h' : IsPart m' m) : IsPart m'' m :=
  ⟨fun hp => h'.property (h.property hp), fun ht => h'.type (h.type ht)⟩

theorem isPart_prune (m : Model) (root : String) : IsPart (m.prune root) m where
  property hp := (property?_prune_eq_some.mp hp).2
  type ht := by
    rw [type?_prune] at ht
    split at ht
    · cases ht
    · split at ht
      · simpa using ht
      · exact ht

/-- A part of an indexed model is indexed. -/
theorem IsPart.indexed (h : IsPart m' m) (hm : m.Indexed) : m'.Indexed :=
  fun path p hp => hm path p (h.property hp)

theorem IsPart.property?_eq_none (h : IsPart m' m) (hp : m.property? path = none) :
    m'.property? path = none :=
  Option.eq_none_iff_forall_ne_some.mpr fun _ hp' => by cases hp.symm.trans (h.property hp')

/-- A referent of a part is one of the model: its property is unchanged. -/
theorem IsPart.isReferent (h : IsPart m' m) (ht : m'.IsReferent path) : m.IsReferent path := by
  obtain ⟨t, ht, hkind⟩ := ht
  exact ⟨t, h.property ht, hkind⟩

end Model

namespace Resolution

variable {x y : Resolution}

/-! ### Rounds -/

@[simp] theorem model_drop (x : Resolution) (e : SchemaError) :
    (x.drop e).model = x.model.prune (Path.root e.path) :=
  rfl

/-- A round leaves a part of the model, whichever references it takes up. -/
theorem isPart_foldl_drop (order : List SchemaError) (x : Resolution) :
    (order.foldl drop x).model.IsPart x.model := by
  induction order generalizing x with
  | nil => exact Model.IsPart.refl _
  | cons e order ih => exact (ih (x.drop e)).trans (Model.isPart_prune _ _)

theorem size_foldl_drop_le (order : List SchemaError) (x : Resolution) :
    (order.foldl drop x).model.properties.size ≤ x.model.properties.size := by
  induction order generalizing x with
  | nil => exact Nat.le_refl _
  | cons e order ih => exact Nat.le_trans (ih (x.drop e)) Model.size_properties_prune_le

/-- A round that takes up a broken reference at all takes out a property. -/
theorem size_foldl_drop_lt (h : x.model.Indexed) {order : List SchemaError} (hne : order ≠ [])
    (hsub : order ⊆ x.model.brokenReferences) :
    (order.foldl drop x).model.properties.size < x.model.properties.size := by
  cases order with
  | nil => exact absurd rfl hne
  | cons e order =>
    obtain ⟨p, hp, -⟩ := h.mem_brokenReferences_iff.mp (hsub List.mem_cons_self)
    exact Nat.lt_of_le_of_lt (size_foldl_drop_le order (x.drop e))
      (Model.size_properties_prune_lt hp (Path.isWithin_root e.path))

/-- What dropping broken references can come to.  As long as there are some, a round takes up a
list of references that `takes` allows for them, whether or not they are still there when their turn
comes. -/
inductive Settles (takes : List SchemaError → List SchemaError → Prop) :
    Resolution → Resolution → Prop where
  | stable {x : Resolution} (h : x.model.brokenReferences = []) : Settles takes x x
  | round {x y : Resolution} (order : List SchemaError) (hne : order ≠ [])
      (htake : takes order x.model.brokenReferences) (t : Settles takes (order.foldl drop x) y) :
      Settles takes x y

namespace Settles

variable {takes takes' : List SchemaError → List SchemaError → Prop}

/-- What settles by some choice of rounds also settles by any choice that allows for it. -/
theorem mono (hle : ∀ order broken, takes order broken → takes' order broken)
    (h : Settles takes x y) : Settles takes' x y := by
  induction h with
  | stable h => exact .stable h
  | round order hne htake _ ih => exact .round order hne (hle _ _ htake) ih

/-- In the end no reference is broken. -/
theorem brokenReferences_eq_nil (h : Settles takes x y) : y.model.brokenReferences = [] := by
  induction h with
  | stable h => exact h
  | round _ _ _ _ ih => exact ih

/-- In the end there is a part of the model with which the rounds began. -/
theorem isPart (h : Settles takes x y) : y.model.IsPart x.model := by
  induction h with
  | stable => exact Model.IsPart.refl _
  | round order _ _ _ ih => exact ih.trans (isPart_foldl_drop order _)

end Settles

/-- As many rounds as there are properties are enough. -/
theorem settles_settleWithin (h : x.model.Indexed) {rounds : Nat}
    (hr : x.model.properties.size ≤ rounds) : Settles Eq x (settleWithin rounds x) := by
  induction rounds generalizing x with
  | zero =>
    refine .stable ?_
    -- a model without properties has no broken reference
    by_contra hne
    have := size_foldl_drop_lt h hne (List.Subset.refl _)
    omega
  | succ rounds ih =>
    rw [settleWithin]
    split
    · next hb => exact .stable hb
    · next hne =>
      have hlt := size_foldl_drop_lt h hne (List.Subset.refl _)
      exact .round _ hne rfl
        (ih ((isPart_foldl_drop _ x).indexed h) (by omega))

/-- **The rounds of a resolution.**  Taking up each list of broken references as it is settles an
indexed model. -/
theorem settles_settle (h : x.model.Indexed) : Settles Eq x x.settle :=
  settles_settleWithin h (Nat.le_refl _)

/-- Once the model is stable, further rounds change nothing. -/
theorem settleWithin_of_stable (h : x.model.brokenReferences = []) (rounds : Nat) :
    settleWithin rounds x = x := by
  cases rounds with
  | zero => rfl
  | succ rounds => rw [settleWithin, h]

/-- The rounds can be cut in two anywhere. -/
theorem settleWithin_add (a b : Nat) (x : Resolution) :
    settleWithin (a + b) x = settleWithin b (settleWithin a x) := by
  induction a generalizing x with
  | zero => rw [Nat.zero_add]; rfl
  | succ a ih =>
    rw [Nat.succ_add, settleWithin, settleWithin]
    split
    · next hb => rw [settleWithin_of_stable hb]
    · exact ih _

/-- **Termination.**  The rounds come to an end before they run out. -/
theorem settleWithin_eq_settle (h : x.model.Indexed) {rounds : Nat}
    (hr : x.model.properties.size ≤ rounds) : settleWithin rounds x = x.settle := by
  obtain ⟨more, rfl⟩ := Nat.exists_eq_add_of_le hr
  rw [settleWithin_add]
  exact settleWithin_of_stable (settles_settle h).brokenReferences_eq_nil more

end Resolution

end SchemaBeans.Schema
