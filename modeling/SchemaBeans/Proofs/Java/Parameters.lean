import SchemaBeans.Proofs.Java.Classes
import SchemaBeans.Proofs.Resolution.Order

/-!
# Packages — parameters of constructors

The constructor of a class sets the choices of values that cannot be nil, and whatever else has to
occur and is not constant (`IsParameter`).  Whether a property has to occur is said by lower bounds
as they were before resolution: by its own if it is no reference, by that of its target if it is
one, and by both for an array of references, of which one has to be positive (`Model.MustOccur`).
Resolution leaves a lower bound that says the same (`Model.min_meaning_pos_iff`), so the parameters
of the constructor are the members of these properties (`required_translateClass`).
-/

namespace SchemaBeans.Schema.Model

/-- The lower bounds in the model say that the property has to occur. -/
def MustOccur (m : Model) (p : Property) : Prop :=
  p.isReference = false ∧ 0 < p.cardinality.min ∨
    ∃ reference ∈ p.reference?, ∃ referent ∈ m.property? reference,
      0 < referent.cardinality.min ∨ 0 < p.cardinality.dimensions ∧ 0 < p.cardinality.min

instance (m : Model) (p : Property) : Decidable (m.MustOccur p) :=
  inferInstanceAs (Decidable (_ ∨ _))

variable {m : Model} {p : Property}

theorem min_resolved_pos_iff {referent : Property} :
    0 < (p.resolved referent).cardinality.min ↔
      0 < referent.cardinality.min ∨ 0 < p.cardinality.dimensions ∧ 0 < p.cardinality.min := by
  have hinherits := p.inherits_resolved referent
  cases hcollection : p.isCollection with
  | false =>
    have hscalar : ¬0 < p.cardinality.dimensions := of_decide_eq_false hcollection
    rw [hinherits.scalar hcollection, or_iff_left fun h => hscalar h.1]
  | true =>
    have harray : 0 < p.cardinality.dimensions := of_decide_eq_true hcollection
    rw [(hinherits.collection hcollection).1, Nat.add_pos_iff_pos_or_pos, or_comm,
      and_iff_right harray]

/-- Where no reference is broken, the lower bound of a meaning is positive exactly if the property
has to occur. -/
theorem min_meaning_pos_iff (hm : m.Indexed) (hstable : m.brokenReferences = []) {path : String}
    (hp : m.property? path = some p) : 0 < (m.meaning p).cardinality.min ↔ m.MustOccur p := by
  cases href : p.isReference with
  | false =>
    have hnone := Property.reference?_eq_none_iff.mpr href
    rw [meaning_of_not_isReference href, MustOccur]
    simp [href, hnone]
  | true =>
    obtain ⟨reference, hr⟩ := Property.exists_reference?_of_isReference href
    obtain ⟨referent, ht, -⟩ := hm.brokenReferences_eq_nil_iff.mp hstable _ _ _ hp hr
    rw [meaning_of_reference? hr ht, min_resolved_pos_iff, MustOccur]
    simp [href, hr, ht]

end SchemaBeans.Schema.Model

namespace SchemaBeans.Java

open Schema (Extraction Model Property Resolution SchemaType)

/-- The property, of a model that has been resolved, becomes a parameter: it is a choice of values
that cannot be nil, or it is neither such a choice nor a scalar with a single value, and has to
occur by what `m`, the model before, says of it. -/
def IsParameter (m : Model) (q : Property) : Prop :=
  2 ≤ q.possibleValues.size ∧ Schema.nilValue ∉ q.possibleValues ∨
    ¬2 ≤ q.possibleValues.size ∧ ¬IsSingle q ∧ ∃ p ∈ m.property? q.path, m.MustOccur p

instance (m : Model) (q : Property) : Decidable (IsParameter m q) :=
  inferInstanceAs (Decidable (_ ∨ _))

theorem isSetInConstructor_iff {q : Property} : q.isSetInConstructor = true ↔
    2 ≤ q.possibleValues.size ∧ Schema.nilValue ∉ q.possibleValues ∨
      ¬2 ≤ q.possibleValues.size ∧ ¬IsSingle q ∧ 0 < q.cardinality.min := by
  rw [Property.isSetInConstructor, ← isConstant_iff]
  cases henum : q.isEnum with
  | true =>
    have hsize : 2 ≤ q.possibleValues.size := of_decide_eq_true henum
    have hnil : q.possibleValues.contains Schema.nilValue = false ↔
        Schema.nilValue ∉ q.possibleValues := by
      rw [← Std.ExtTreeSet.contains_iff_mem, Bool.not_eq_true]
    simp [hsize, hnil]
  | false =>
    have hsize : ¬2 ≤ q.possibleValues.size := of_decide_eq_false henum
    cases hconstant : q.isConstant <;> simp [hsize, Schema.Cardinality.isRequired]

theorem not_isSingle_of_isSetInConstructor {q : Property} (h : q.isSetInConstructor = true) :
    ¬IsSingle q := by
  rcases isSetInConstructor_iff.mp h with ⟨hsize, -⟩ | ⟨-, hsingle, -⟩
  · rintro ⟨hone, -⟩
    omega
  · exact hsingle

/-- Where no reference is broken, what a property comes to mean becomes a parameter exactly if it is
set when an instance is constructed. -/
theorem isParameter_meaning_iff {m : Model} {p : Property} {path : String} (hm : m.Indexed)
    (hstable : m.brokenReferences = []) (hp : m.property? path = some p) :
    IsParameter m (m.meaning p) ↔ (m.meaning p).isSetInConstructor = true := by
  have hoccurs : (∃ p' ∈ m.property? (m.meaning p).path, m.MustOccur p') ↔
      0 < (m.meaning p).cardinality.min := by
    rw [Schema.Model.path_meaning, hm path p hp, hp, Model.min_meaning_pos_iff hm hstable hp]
    simp
  rw [IsParameter, hoccurs, isSetInConstructor_iff]

section Required

variable (m : Model) (t : SchemaType)

/-- The constructor sets the members of the properties that are set when an instance is
constructed, in the order of the members' names. -/
theorem required_translateClass_eq : (translateClass m t).required =
    (Order.sortBy fieldName ((m.members t).filter Property.isSetInConstructor)).map
      (dataMember m) := by
  have hrequired : Member.isRequired ∘ dataMember m = Property.isSetInConstructor := by
    funext p
    rw [Function.comp_apply, dataMember]
  rw [Class.required_eq, members_translateClass_eq, List.filter_map, hrequired,
    Order.filter_sortBy, dataProperties_eq, List.filter_filter]
  refine congrArg (fun ps => (Order.sortBy fieldName ps).map _) (List.filter_congr fun p _ => ?_)
  rw [Bool.eq_iff_iff, Bool.and_eq_true, decide_eq_true_eq]
  exact and_iff_left_of_imp not_isSingle_of_isSetInConstructor

/-- No constant is a parameter: it is not required. -/
theorem not_mem_constants_of_mem_required {member : Member}
    (h : member ∈ (translateClass m t).required) : member ∉ (translateClass m t).constants := by
  intro hconstant
  rw [Class.required_eq] at h
  obtain ⟨p, -, rfl⟩ := List.mem_map.mp ((constants_translateClass m t).mem_iff.mp hconstant)
  have hrequired := (List.mem_filter.mp h).2
  rw [constantMember] at hrequired
  cases hrequired

end Required

/-- **Parameters.**  Let a document be extracted and resolved without errors.  The parameters of the
constructor of each class are the members of those properties of its type that become parameters, by
what the model before resolution says of them; they are in the order of the members' names.  No
constant is one of them. -/
theorem required_translateClass {document : Yaml.Node} {x : Extraction} {r : Resolution}
    {path : String} {t : SchemaType} {c : Class} (hx : Schema.extract document = .ok x)
    (hr : Schema.resolve? x.model x.errors = .ok r) (hempty : r.errors.isEmpty = true)
    (ht : r.model.type? path = some t) (hc : class? r.model t = some c) :
    c.required = (Order.sortBy fieldName
        ((r.model.members t).filter fun q => IsParameter x.model q)).map (dataMember r.model) ∧
      ∀ member ∈ c.required, member ∈ c.members ∧ member ∉ c.constants := by
  obtain ⟨-, rfl⟩ := class?_eq_some_iff.mp hc
  refine ⟨?_, fun member hmember => ⟨?_, not_mem_constants_of_mem_required _ _ hmember⟩⟩
  · have hm := (Schema.extract_wellPlaced hx).indexed
    obtain rfl := Schema.resolve_of_resolve? hr
    have hstable := ((Schema.isEmpty_errors_resolve_iff hm _).mp hempty).2
    rw [required_translateClass_eq]
    refine congrArg (fun ps => (Order.sortBy fieldName ps).map _)
      (List.filter_congr fun q hq => ?_)
    -- each member is what a property of the extracted model comes to mean
    obtain ⟨path', -, hq⟩ := List.mem_filterMap.mp hq
    rw [Schema.property?_resolve_of_isEmpty hm hempty] at hq
    obtain ⟨p, hp, rfl⟩ := Option.map_eq_some_iff.mp hq
    rw [Bool.eq_iff_iff, decide_eq_true_eq, isParameter_meaning_iff hm hstable hp]
  · rw [Class.required_eq] at hmember
    exact (List.mem_filter.mp hmember).1

/-- An object that requires a text, a reference, a constant and a choice with nil, and has besides
them a text, another choice, and a reference and an array of references to what another object
requires. -/
def requiringReferences : List (Yaml.Node × Yaml.Node) :=
  let text := Yaml.Node.mapping [(.string "type", .string "string")]
  let reference (path : String) := Yaml.Node.mapping [(.string "$ref", .string path)]
  let choice (values : List Yaml.Node) := Yaml.Node.mapping
    [(.string "type", .string "string"), (.string "enum", .sequence values)]
  [(.string "a", .mapping [(.string "type", .string "object"),
      (.string "required", .sequence
        [.string "text", .string "target", .string "only", .string "orNil"]),
      (.string "properties", .mapping
        [(.string "text", text), (.string "other", text),
          (.string "target", reference "#/components/schemas/c"),
          (.string "required", reference "#/components/schemas/b/inner"),
          (.string "list", .mapping [(.string "type", .string "array"),
            (.string "items", reference "#/components/schemas/b/inner")]),
          (.string "only", choice [.string "x"]),
          (.string "choice", choice [.string "x", .string "y"]),
          (.string "orNil", choice [.string "x", .string "nil"])])]),
    (.string "b", .mapping [(.string "type", .string "object"),
      (.string "required", .sequence [.string "inner"]),
      (.string "properties", .mapping [(.string "inner", text)])]),
    (.string "c", text)]

/-- The text, the choice without nil, and the references to what is required become parameters. -/
theorem requiringReferences_required : ∃ x r t c,
    Schema.extract (Schema.documentOf requiringReferences) = .ok x ∧
      Schema.resolve? x.model x.errors = .ok r ∧ r.errors.isEmpty = true ∧
      r.model.type? "#/components/schemas/a" = some t ∧ class? r.model t = some c ∧
      c.required.map Member.name = ["choice", "list", "required", "text"] ∧
      c.constants.map Member.name = ["ONLY"] ∧
      c.required = (Order.sortBy fieldName
        ((r.model.members t).filter fun q => IsParameter x.model q)).map (dataMember r.model) := by
  have hrun : (Schema.extract (Schema.documentOf requiringReferences)).toOption.any (fun x =>
      (Schema.resolve? x.model x.errors).toOption.any fun r => r.errors.isEmpty &&
        (r.model.type? "#/components/schemas/a").any fun t => (class? r.model t).any fun c =>
          c.required.map Member.name = ["choice", "list", "required", "text"] ∧
            c.constants.map Member.name = ["ONLY"]) = true := by
    decide +kernel
  obtain ⟨x, hx, hrun⟩ := Schema.exists_of_toOption_any hrun
  obtain ⟨r, hr, hrun⟩ := Schema.exists_of_toOption_any hrun
  obtain ⟨hempty, hrun⟩ := (Bool.and_eq_true _ _).mp hrun
  obtain ⟨t, ht, hrun⟩ := (Option.any_eq_true _ _).mp hrun
  obtain ⟨c, hc, hrun⟩ := (Option.any_eq_true _ _).mp hrun
  obtain ⟨hrequired, hconstants⟩ := of_decide_eq_true hrun
  exact ⟨x, r, t, c, hx, hr, hempty, ht, hc, hrequired, hconstants,
    (required_translateClass hx hr hempty ht hc).1⟩

end SchemaBeans.Java
