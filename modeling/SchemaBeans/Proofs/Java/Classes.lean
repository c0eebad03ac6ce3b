import SchemaBeans.Proofs.Java.Contents
import SchemaBeans.Proofs.Reachable

/-!
# Packages — classes

The class of a type has a constant for each property that is a scalar with a single value, and a
member for each other property, both in the order of their names and, where those are the same, of
the properties' paths.  The constructor's parameters are the members that are required, in the same
order (`Class.required_eq`).

Whatever becomes of a property's name, its member goes by that name in serialized form
(`wireName_dataMember`), so the members of a class of a reachable model have different names there
(`wireNames_of_translateClass`).
-/

namespace SchemaBeans.Java

open Schema (Model Property SchemaType)

/-! ### Parameters -/

namespace Class

theorem map_index_parameters (c : Class) :
    c.parameters.map Parameter.index = requiredFrom 0 c.members := by
  rw [parameters]
  cases requiredFrom 0 c.members with
  | nil => rfl
  | cons i is => simp [Function.comp_def]

/-- The required positions are found by numbering the members. -/
theorem requiredFrom_eq (start : Nat) (members : List Member) : requiredFrom start members =
    ((members.zipIdx start).filter (·.1.isRequired)).map Prod.snd := by
  induction members generalizing start with
  | nil => rfl
  | cons member members ih =>
    rw [requiredFrom, List.zipIdx_cons, List.filter_cons]
    split
    · rw [List.map_cons, ih]
    · exact ih _

theorem map_fst_filter_zipIdx (members : List Member) :
    (members.zipIdx.filter (·.1.isRequired)).map Prod.fst =
      members.filter Member.isRequired := by
  have h := List.filter_map (f := Prod.fst) (p := Member.isRequired) (l := members.zipIdx)
  rw [List.zipIdx_map_fst] at h
  exact h.symm

/-- The constructor sets the required members. -/
theorem required_eq (c : Class) : c.required = c.members.filter Member.isRequired := by
  have hfound : ∀ n ∈ c.members.zipIdx.filter (·.1.isRequired),
      c.members[n.2]? = some n.1 := fun n hn =>
    List.mem_zipIdx_iff_getElem?.mp (List.mem_filter.mp hn).1
  calc
    c.required = (requiredFrom 0 c.members).filterMap fun i => c.members[i]? := by
      rw [← map_index_parameters, List.filterMap_map]
      rfl
    _ = (c.members.zipIdx.filter (·.1.isRequired)).map Prod.fst := by
      rw [requiredFrom_eq, List.filterMap_map, ← List.filterMap_eq_map]
      exact List.filterMap_congr hfound
    _ = c.members.filter Member.isRequired := map_fst_filter_zipIdx c.members

/-- Each parameter goes with the member that it sets. -/
theorem map_snd_zip_required (c : Class) :
    (c.parameters.zip c.required).map Prod.snd = c.required := by
  refine List.map_snd_zip (Nat.le_of_eq ?_)
  rw [required_eq, ← map_fst_filter_zipIdx, List.length_map, ← List.length_map Parameter.index,
    map_index_parameters, requiredFrom_eq, List.length_map]

end Class

/-! ### Members and constants -/

section Translated

variable (m : Model) (t : SchemaType)

/-- The name of the constant for a property. -/
def constantName (p : Property) : String := Naming.screaming p.name

theorem members_translateClass_eq :
    (translateClass m t).members =
      (Order.sortBy fieldName (dataProperties m t)).map (dataMember m) :=
  (Order.map_sortBy (fun _ => rfl) _).symm

theorem constants_translateClass_eq :
    (translateClass m t).constants =
      (Order.sortBy constantName (constantProperties m t)).map (constantMember m) :=
  (Order.map_sortBy (fun _ => rfl) _).symm

end Translated

/-- The property is a scalar with a single value. -/
def IsSingle (p : Property) : Prop := p.possibleValues.size = 1 ∧ p.cardinality.dimensions = 0

instance (p : Property) : Decidable (IsSingle p) := inferInstanceAs (Decidable (_ ∧ _))

theorem isConstant_iff {p : Property} : p.isConstant = true ↔ IsSingle p := by
  simp [IsSingle, Property.isConstant, Property.isCollection, Schema.Cardinality.isCollection]

section Properties

variable (m : Model) (t : SchemaType)

theorem constantProperties_eq :
    constantProperties m t = (m.members t).filter fun p => IsSingle p := by
  refine List.filter_congr fun p _ => ?_
  rw [Bool.eq_iff_iff, decide_eq_true_eq, isConstant_iff]

theorem dataProperties_eq : dataProperties m t = (m.members t).filter fun p => ¬IsSingle p := by
  refine List.filter_congr fun p _ => ?_
  rw [Bool.eq_iff_iff, decide_eq_true_eq, ← isConstant_iff, Bool.not_eq_true, Bool.not_eq_true']

end Properties

/-! ### Serialized names -/

section WireNames

variable {m : Model} {p : Property}

theorem fieldName_of_name_eq_empty (h : p.name = "") : fieldName p = "" := by
  rw [fieldName, h]
  rfl

theorem name_dataMember : (dataMember m p).name = fieldName p := rfl

theorem serializedName_dataMember :
    (dataMember m p).serializedName = if fieldName p = p.name then "" else p.name := by
  rw [dataMember]

/-- A member is renamed if its name is not that of its property. -/
theorem isRenamed_dataMember : (dataMember m p).isRenamed = true ↔ fieldName p ≠ p.name := by
  rw [Member.isRenamed, decide_eq_true_eq, serializedName_dataMember]
  by_cases hname : fieldName p = p.name
  · simp [hname]
  · rw [if_neg hname]
    refine ⟨fun _ => hname, fun _ hempty => ?_⟩
    exact hname ((fieldName_of_name_eq_empty hempty).trans hempty.symm)

/-- The member of a property goes by the property's name in serialized form. -/
theorem wireName_dataMember : (dataMember m p).wireName = p.name := by
  rw [Member.wireName]
  split
  · next h => rw [serializedName_dataMember, if_neg (isRenamed_dataMember.mp h)]
  · next h => rw [name_dataMember, not_not.mp fun hne => h (isRenamed_dataMember.mpr hne)]

theorem map_wireName_dataMember (ps : List Property) :
    (ps.map (dataMember m)).map Member.wireName = ps.map Property.name := by
  rw [List.map_map]
  refine List.map_congr_left fun p _ => ?_
  rw [Function.comp_apply, wireName_dataMember]

/-- A class has renamed members if some member goes by another name in serialized form. -/
theorem hasRenamed_translateClass {t : SchemaType} : (translateClass m t).hasRenamed = true ↔
    ∃ member ∈ (translateClass m t).members, member.wireName ≠ member.name := by
  rw [Class.hasRenamed, List.any_eq_true]
  refine exists_congr fun member => and_congr_right fun hmember => ?_
  obtain ⟨p, -, rfl⟩ := List.mem_map.mp ((members_translateClass m t).mem_iff.mp hmember)
  rw [isRenamed_dataMember, wireName_dataMember, name_dataMember, ne_comm]

/-- The members of a class have different names in serialized form. -/
theorem nodup_wireNames {path : String} {t : SchemaType} (h : m.Reachable)
    (ht : m.type? path = some t) :
    ((translateClass m t).members.map Member.wireName).Nodup := by
  rw [((members_translateClass m t).map _).nodup_iff, map_wireName_dataMember]
  exact (h.nodup_names ht).sublist (List.filter_sublist.map _)

end WireNames

/-- **Serialized names.**  The class of a type of a reachable model has exactly one constant for
each of the type's properties that is a scalar with a single value, and exactly one member for each
other; both are in the order of their names and then of the properties' paths.  Each member goes by
the name of its property in serialized form; these names are different from each other, and some
member is renamed exactly if its own name is not that one. -/
theorem wireNames_of_translateClass {m : Model} {path : String} {t : SchemaType} {c : Class}
    (h : m.Reachable) (ht : m.type? path = some t) (hc : class? m t = some c) :
    ∃ constants members : List Property,
      (m.members t).map Property.path = t.properties.toList ∧
      constants.Perm ((m.members t).filter fun p => IsSingle p) ∧
      members.Perm ((m.members t).filter fun p => ¬IsSingle p) ∧
      c.constants = constants.map (constantMember m) ∧ c.members = members.map (dataMember m) ∧
      constants.Pairwise (Order.Before constantName (·.path < ·.path)) ∧
      members.Pairwise (Order.Before fieldName (·.path < ·.path)) ∧
      c.members.map Member.wireName = members.map Property.name ∧
      (c.members.map Member.wireName).Nodup ∧
      (c.hasRenamed = true ↔ ∃ member ∈ c.members, member.wireName ≠ member.name) := by
  obtain ⟨-, rfl⟩ := class?_eq_some_iff.mp hc
  obtain ⟨hpaths, hsorted⟩ := h.coherent.listsMembers path t ht
  have hordered : (m.members t).Pairwise (·.path < ·.path) := List.pairwise_map.mp hsorted
  refine ⟨Order.sortBy constantName (constantProperties m t),
    Order.sortBy fieldName (dataProperties m t), hpaths, ?_, ?_, constants_translateClass_eq m t,
    members_translateClass_eq m t, Order.pairwise_sortBy (hordered.filter _),
    Order.pairwise_sortBy (hordered.filter _), ?_, nodup_wireNames h ht,
    hasRenamed_translateClass⟩
  · rw [← constantProperties_eq]
    exact Order.sortBy_perm _ _
  · rw [← dataProperties_eq]
    exact Order.sortBy_perm _ _
  · rw [members_translateClass_eq, map_wireName_dataMember]

/-- An object with names that change and names that do not: one is empty, one has separators only,
two become the same, and one is that of a constant. -/
def renamedProperties : List (Yaml.Node × Yaml.Node) :=
  let text := Yaml.Node.mapping [(.string "type", .string "string")]
  [(.string "a", .mapping [(.string "type", .string "object"), (.string "properties", .mapping
    [(.string "", text), (.string "_", text), (.string "my-name", text), (.string "myName", text),
      (.string "É_b", text), (.string "some-size", .mapping [(.string "type", .string "integer"),
        (.string "enum", .sequence [.number (.integer 4)])])])])]

/-- The members, with and without their serialized names, and the constants. -/
theorem renamedProperties_wireNames : ∃ x m t c, ∃ constants members : List Property,
    Schema.extract (Schema.documentOf renamedProperties) = .ok x ∧
      m = (Schema.resolve x.model x.errors).model ∧ m.Reachable ∧
      m.type? "#/components/schemas/a" = some t ∧ class? m t = some c ∧
      c.members.map (fun member => (member.name, member.wireName)) =
        [("", ""), ("", "_"), ("myName", "my-name"), ("myName", "myName"), ("éB", "É_b")] ∧
      c.constants.map Member.name = ["SOME_SIZE"] ∧ c.hasRenamed = true ∧
      c.constants = constants.map (constantMember m) ∧ c.members = members.map (dataMember m) ∧
      members.Pairwise (Order.Before fieldName (·.path < ·.path)) ∧
      (c.members.map Member.wireName).Nodup := by
  have hrun : (Schema.extract (Schema.documentOf renamedProperties)).toOption.any (fun x =>
      let m := (Schema.resolve x.model x.errors).model
      (m.type? "#/components/schemas/a").any fun t => (class? m t).any fun c =>
        c.members.map (fun member => (member.name, member.wireName)) =
            [("", ""), ("", "_"), ("myName", "my-name"), ("myName", "myName"), ("éB", "É_b")] ∧
          c.constants.map Member.name = ["SOME_SIZE"] ∧ c.hasRenamed = true) = true := by
    decide +kernel
  obtain ⟨x, hx, hrun⟩ := Schema.exists_of_toOption_any hrun
  obtain ⟨t, ht, hrun⟩ := (Option.any_eq_true _ _).mp hrun
  obtain ⟨c, hc, hrun⟩ := (Option.any_eq_true _ _).mp hrun
  obtain ⟨hmembers, hconstants, hrenamed⟩ := of_decide_eq_true hrun
  have hreachable := (Schema.reachable_of_extract hx).2 x.errors
  obtain ⟨constants, members, -, -, -, hcs, hms, -, hordered, -, hnodup, -⟩ :=
    wireNames_of_translateClass hreachable ht hc
  exact ⟨x, _, t, c, constants, members, hx, rfl, hreachable, ht, hc, hmembers, hconstants,
    hrenamed, hcs, hms, hordered, hnodup⟩

end SchemaBeans.Java
