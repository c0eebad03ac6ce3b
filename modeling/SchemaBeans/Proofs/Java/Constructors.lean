import Mathlib.Data.List.Forall2
import Mathlib.Data.List.Sort
import SchemaBeans.Proofs.Java.Lines

/-!
# Classes — constructors

A class has the members and the constants that it is given, in the order of their names and, where
those are the same, in the order in which they are given; so there is one list of each
(`Order.isStableSort_iff`).

A parameter of the constructor names its member by position.  The positions are those of the
required members, from the first to the last, and the first parameter is marked as such
(`isParameterList_parameters`); this leaves one list of parameters as well
(`isParameterList_iff`).  So no position fails to find its member, and the list of the members that
are found goes in step with the parameters (`forall₂_parameters_required`): in what is rendered,
the mark of the first parameter is at the name of the first required member
(`get?_requiredMembers`).
-/

namespace SchemaBeans.Java.Class

open Text (Datum View)

variable {members : List Member} {ps qs : List Parameter}

/-! ### Positions -/

theorem mem_requiredFrom_iff {i : Nat} : i ∈ requiredFrom 0 members ↔
    ∃ member, members[i]? = some member ∧ member.isRequired = true := by
  simp [requiredFrom_eq, List.mem_zipIdx_iff_getElem?]

theorem pairwise_requiredFrom (start : Nat) (members : List Member) :
    (requiredFrom start members).Pairwise (· < ·) := by
  have hnumbers : ((members.zipIdx start).map Prod.snd).Pairwise (· < ·) := by
    rw [List.zipIdx_map_snd]
    exact List.pairwise_lt_range'
  rw [requiredFrom_eq]
  exact hnumbers.sublist (List.filter_sublist.map Prod.snd)

/-! ### Parameters -/

/-- The parameters are those for the required ones among the members. -/
structure IsParameterList (members : List Member) (ps : List Parameter) : Prop where
  /-- No position is beyond the members. -/
  valid : ∀ p ∈ ps, p.index < members.length
  increasing : ps.Pairwise (·.index < ·.index)
  required {i : Nat} {member : Member} (h : members[i]? = some member) :
    (∃ p ∈ ps, p.index = i) ↔ member.isRequired = true
  first {k : Nat} {p : Parameter} (h : ps[k]? = some p) : p.isFirst = true ↔ k = 0

theorem IsParameterList.mem_map_index_iff (h : IsParameterList members ps) {i : Nat} :
    i ∈ ps.map Parameter.index ↔
      ∃ member, members[i]? = some member ∧ member.isRequired = true := by
  rw [List.mem_map]
  refine ⟨?_, ?_⟩
  · rintro ⟨p, hp, rfl⟩
    have hmember := List.getElem?_eq_getElem (h.valid p hp)
    exact ⟨_, hmember, (h.required hmember).mp ⟨p, hp, rfl⟩⟩
  · rintro ⟨member, hmember, hrequired⟩
    exact (h.required hmember).mpr hrequired

/-- The members leave no choice of their parameters. -/
theorem IsParameterList.unique (h : IsParameterList members ps) (h' : IsParameterList members qs) :
    ps = qs := by
  have hindex : ps.map Parameter.index = qs.map Parameter.index :=
    (List.pairwise_map.mpr h.increasing).eq_of_mem_iff (List.pairwise_map.mpr h'.increasing)
      fun i => h.mem_map_index_iff.trans h'.mem_map_index_iff.symm
  have hlength : ps.length = qs.length := by simpa using congrArg List.length hindex
  refine List.ext_getElem hlength fun k hk hk' => ?_
  have hfirst : ps[k].isFirst = qs[k].isFirst := by
    rw [Bool.eq_iff_iff, h.first (List.getElem?_eq_getElem hk),
      h'.first (List.getElem?_eq_getElem hk')]
  have hposition : ps[k].index = qs[k].index := by
    simpa [hk, hk'] using congrArg (·[k]?) hindex
  generalize ps[k] = p, qs[k] = q at hfirst hposition
  cases p
  cases q
  rw [Parameter.mk.injEq]
  exact ⟨hfirst, hposition⟩

section Parameters

variable (c : Class)

/-- The parameters of a class are those for its required members. -/
theorem isParameterList_parameters : IsParameterList c.members c.parameters := by
  have hpositions {i : Nat} : (∃ p ∈ c.parameters, p.index = i) ↔
      ∃ member, c.members[i]? = some member ∧ member.isRequired = true := by
    rw [← mem_requiredFrom_iff, ← map_index_parameters, List.mem_map]
  refine ⟨fun p hp => ?_, ?_, fun h => ?_, fun {k p} h => ?_⟩
  · obtain ⟨member, hmember, -⟩ := hpositions.mp ⟨p, hp, rfl⟩
    exact (List.getElem?_eq_some_iff.mp hmember).1
  · rw [← List.pairwise_map (f := Parameter.index), map_index_parameters]
    exact pairwise_requiredFrom 0 c.members
  · rw [hpositions, h]
    simp
  · cases hc : c.parameters with
    | nil => simp [hc] at h
    | cons q qs =>
      obtain ⟨hq, hqs⟩ := isFirst_of_parameters hc
      rw [hc] at h
      cases k with
      | zero =>
        obtain rfl : q = p := by simpa using h
        simp [hq]
      | succ k => simp [hqs p (List.mem_of_getElem? h)]

theorem isParameterList_iff : IsParameterList c.members ps ↔ ps = c.parameters :=
  ⟨fun h => h.unique c.isParameterList_parameters, fun h => h ▸ c.isParameterList_parameters⟩

/-! ### Required members -/

/-- Every parameter finds its member, which has the same place among the required members. -/
theorem forall₂_parameters_required :
    List.Forall₂ (fun p member => c.members[p.index]? = some member) c.parameters c.required := by
  have hvalid := c.isParameterList_parameters.valid
  rw [required]
  generalize c.parameters = ps at hvalid
  induction ps with
  | nil => exact List.Forall₂.nil
  | cons p ps ih =>
    obtain ⟨hp, hps⟩ := List.forall_mem_cons.mp hvalid
    have hmember := List.getElem?_eq_getElem hp
    rw [List.filterMap_cons, hmember]
    exact List.Forall₂.cons hmember (ih hps)

/-- The view of a class has the required members as parameters, and the first of them, and no other,
is marked as the first one. -/
theorem get?_requiredMembers (package : String) :
    (c.view package).get? .requiredMembers = some (.list (c.required.mapIdx fun k member =>
      [(.isFirst, .flag (k = 0)), (.name, .text member.name),
        (.memberType, .text member.type)])) := by
  have hlength := c.forall₂_parameters_required.length_eq
  have hview : (c.view package).get? .requiredMembers =
      some (.list ((c.parameters.zip c.required).map fun pm => parameterView pm.1 pm.2)) := rfl
  rw [hview]
  refine congrArg (fun views => some (Datum.list views))
    (List.ext_getElem (by simp [hlength]) fun k _ hmember => ?_)
  rw [List.length_mapIdx] at hmember
  have hk : k < c.parameters.length := hlength ▸ hmember
  have hfirst : c.parameters[k].isFirst = decide (k = 0) := by
    rw [Bool.eq_iff_iff, decide_eq_true_iff]
    exact c.isParameterList_parameters.first (List.getElem?_eq_getElem hk)
  simp [parameterView, hfirst]

end Parameters

/-- **Constructors.**  A class of members and constants, whatever its name and its description, has
both in the stable order of their names.  The parameters of its constructor are those for the
required ones among the members, and the members that they find are the required ones of those that
are given, in the stable order of their names.  The parameters and these members go in step, so the
view of the class has a parameter for each of them, the first of which is marked. -/
theorem parameters_of_members (package name description : String)
    (members constants : List Member) :
    let c := ofMembers name description members constants
    (∀ l, Order.IsStableSort Member.name members l ↔ l = c.members) ∧
      (∀ l, Order.IsStableSort Member.name constants l ↔ l = c.constants) ∧
      (∀ ps, IsParameterList c.members ps ↔ ps = c.parameters) ∧
      (∀ l, Order.IsStableSort Member.name (members.filter Member.isRequired) l ↔
        l = c.required) ∧
      List.Forall₂ (fun p member => c.members[p.index]? = some member) c.parameters c.required ∧
      (c.parameters.zip c.required).unzip = (c.parameters, c.required) ∧
      (c.view package).get? .requiredMembers = some (.list (c.required.mapIdx fun k member =>
        [(.isFirst, .flag (k = 0)), (.name, .text member.name),
          (.memberType, .text member.type)])) := by
  intro c
  have hstep := c.forall₂_parameters_required
  have hrequired : c.required = Order.sortBy Member.name (members.filter Member.isRequired) := by
    rw [required_eq, ← Order.filter_sortBy]
    rfl
  refine ⟨fun l => Order.isStableSort_iff, fun l => Order.isStableSort_iff,
    fun ps => c.isParameterList_iff, fun l => ?_, hstep, List.unzip_zip hstep.length_eq,
    c.get?_requiredMembers package⟩
  rw [hrequired, Order.isStableSort_iff]

/-- Members with the same name stay as they are given. -/
example : (ofMembers "Pet" "" [{ name := "b", isRequired := true }, { name := "a" },
    { name := "b", type := "int", isRequired := true }] []).parameters =
      [⟨true, 1⟩, ⟨false, 2⟩] := by decide +kernel

end SchemaBeans.Java.Class
