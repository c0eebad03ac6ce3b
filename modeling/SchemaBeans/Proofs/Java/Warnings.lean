import Mathlib.Data.Finset.Card
import SchemaBeans.Proofs.Java.Sources
import SchemaBeans.Proofs.Reachable

/-!
# Packages — warnings

A translation warns of each type whose name is that of a type at a smaller path (`IsRepeated`), in
the order of the types' paths, and of nothing else.  The types are added in that order, so at each
of them the names in the package are those of the types at smaller paths (`warnings_foldl`).  A type
that brings a new name brings no warning, and any other brings one, so the types that are not warned
of are as many as there are names (`length_warnings_foldl`).

Without warnings every type has a place of its own in the package (`OneToOne`): no name is taken
twice, so each type is the last of its name.
-/

namespace SchemaBeans.Java

open Schema (Model Property SchemaType Warning)
open Std (ExtTreeMap)

/-- The name of the type at the path is that of a type at a smaller path. -/
def IsRepeated (m : Model) (path : String) (t : SchemaType) : Prop :=
  ∃ path' t', m.type? path' = some t' ∧ path' < path ∧ typeName m t' = typeName m t

/-- The types whose names are repeated, in the order of their paths. -/
structure AreRepeated (m : Model) (entries : List (String × SchemaType)) : Prop where
  mem_iff {path : String} {t : SchemaType} :
    (path, t) ∈ entries ↔ m.type? path = some t ∧ IsRepeated m path t
  ordered : entries.Pairwise (·.1 < ·.1)

/-- The names of the types. -/
def typeNames (m : Model) : Finset String :=
  (m.types.toList.map fun entry => typeName m entry.2).toFinset

/-- The property that introduced the type allows two values or more. -/
def IsChoice (m : Model) (t : SchemaType) : Prop := ∃ p ∈ m.own? t, 2 ≤ p.possibleValues.size

/-- Each type has a place of its own in the package, under its name: among the enums if it is a
choice, and among the classes if not. -/
structure OneToOne (m : Model) (p : Package) : Prop where
  enum {path : String} {t : SchemaType} : m.type? path = some t → IsChoice m t →
    p.enums[typeName m t]? = some (translateEnum m t) ∧ typeName m t ∉ p.classes
  «class» {path : String} {t : SchemaType} : m.type? path = some t → ¬IsChoice m t →
    p.classes[typeName m t]? = some (translateClass m t) ∧ typeName m t ∉ p.enums
  injective {path path' : String} {t t' : SchemaType} : m.type? path = some t →
    m.type? path' = some t' → typeName m t = typeName m t' → path = path'
  surjective {name : String} : p.contains name = true →
    ∃ path t, m.type? path = some t ∧ typeName m t = name
  size : p.size = m.types.size

variable {m : Model} {t : SchemaType} {x : Translation} {path package : String}

theorem isChoice_iff : IsChoice m t ↔ (m.own? t).any Property.isEnum = true := by
  rw [IsChoice, Option.any_eq_true]
  exact exists_congr fun p => and_congr_right fun _ => (decide_eq_true_iff (p := 1 < _)).symm

/-- The types come in the order of their paths. -/
theorem pairwise_toList_types (m : Model) : m.types.toList.Pairwise (·.1 < ·.1) :=
  (ExtTreeMap.ordered_keys_toList (t := m.types)).imp fun hlt => compareOfLessAndEq_eq_lt.mp hlt

namespace Translation

/-! ### One warning for each repeated name -/

/-- In a list ordered by paths, what is at a smaller path than an entry is what comes before it. -/
theorem mem_before_iff {before entries : List (String × SchemaType)}
    {entry other : String × SchemaType}
    (hordered : (before ++ entry :: entries).Pairwise (·.1 < ·.1)) :
    other ∈ before ↔ other ∈ before ++ entry :: entries ∧ other.1 < entry.1 := by
  obtain ⟨-, hrest, hbefore⟩ := List.pairwise_append.mp hordered
  refine ⟨fun h => ⟨List.mem_append_left _ h, hbefore _ h _ List.mem_cons_self⟩, ?_⟩
  rintro ⟨hmem, hlt⟩
  rcases List.mem_append.mp hmem with h | h
  · exact h
  rcases List.mem_cons.mp h with rfl | h
  · exact absurd hlt (String.lt_irrefl _)
  · exact absurd (List.rel_of_pairwise_cons hrest h) (String.lt_asymm hlt)

/-- The names in the package are those of the types before, so the types that are warned of are
those whose names are repeated. -/
theorem warnings_foldl {before entries : List (String × SchemaType)}
    (hordered : (before ++ entries).Pairwise (·.1 < ·.1))
    (hbefore : ∀ name, x.package.contains name = true ↔
      ∃ entry ∈ before, typeName m entry.2 = name) :
    (entries.foldl (add m) x).warnings = x.warnings ++
      (entries.filter fun entry => ∃ other ∈ before ++ entries,
        other.1 < entry.1 ∧ typeName m other.2 = typeName m entry.2).map
          fun entry => .duplicateName entry.1 (typeName m entry.2) := by
  induction entries generalizing before x with
  | nil => simp
  | cons entry entries ih =>
    have hsplit : before ++ [entry] ++ entries = before ++ entry :: entries := by simp
    have hnext : ∀ name, (x.add m entry).package.contains name = true ↔
        ∃ other ∈ before ++ [entry], typeName m other.2 = name := by
      intro name
      rw [contains_add, Bool.or_eq_true, decide_eq_true_eq, hbefore]
      simp [or_and_right, exists_or, or_comm]
    have htaken : x.package.contains (typeName m entry.2) = true ↔
        ∃ other ∈ before ++ entry :: entries,
          other.1 < entry.1 ∧ typeName m other.2 = typeName m entry.2 := by
      simp only [hbefore, mem_before_iff hordered, and_assoc]
    rw [List.foldl_cons, ih (hsplit ▸ hordered) hnext, warnings_add, List.append_assoc, hsplit,
      List.filter_cons]
    by_cases h : x.package.contains (typeName m entry.2) = true
    · rw [if_pos h, if_pos (decide_eq_true (htaken.mp h))]
      rfl
    · rw [if_neg h, if_neg fun hd => h (htaken.mpr (of_decide_eq_true hd))]
      rfl

/-- Of the types, as many are not warned of as there are names besides those taken before. -/
theorem length_warnings_foldl (entries : List (String × SchemaType)) {taken : Finset String}
    (htaken : ∀ name, x.package.contains name = true ↔ name ∈ taken) :
    (entries.foldl (add m) x).warnings.length +
        (taken ∪ (entries.map fun entry => typeName m entry.2).toFinset).card =
      x.warnings.length + taken.card + entries.length := by
  induction entries generalizing x taken with
  | nil => simp
  | cons entry entries ih =>
    have hnext : ∀ name, (x.add m entry).package.contains name = true ↔
        name ∈ insert (typeName m entry.2) taken := by
      intro name
      rw [contains_add, Bool.or_eq_true, decide_eq_true_eq, htaken, Finset.mem_insert, eq_comm]
    have hnames : taken ∪ ((entry :: entries).map fun entry => typeName m entry.2).toFinset =
        insert (typeName m entry.2) taken ∪
          (entries.map fun entry => typeName m entry.2).toFinset := by
      rw [List.map_cons, List.toFinset_cons, Finset.union_insert, Finset.insert_union]
    rw [List.foldl_cons, hnames, ih hnext, warnings_add, List.length_append, List.length_cons]
    by_cases h : x.package.contains (typeName m entry.2) = true
    · rw [if_pos h, Finset.insert_eq_self.mpr ((htaken _).mp h), List.length_singleton]
      omega
    · rw [if_neg h, Finset.card_insert_of_notMem fun hmem => h ((htaken _).mpr hmem),
        List.length_nil]
      omega

/-! ### Nothing lost -/

theorem size_add {entry : String × SchemaType}
    (h : x.package.contains (typeName m entry.2) = false) :
    (x.add m entry).package.size = x.package.size + 1 := by
  obtain ⟨hclasses, henums⟩ := (Bool.or_eq_false_iff).mp h
  rw [add]
  split
  · have hnew : ¬x.package.enums.contains (translateEnum m entry.2).name = true :=
      Bool.eq_false_iff.mp henums
    simp only [Package.size, Package.addEnum, ExtTreeMap.size_insert, if_neg hnew, Nat.add_assoc]
  · have hnew : ¬x.package.classes.contains (translateClass m entry.2).name = true :=
      Bool.eq_false_iff.mp hclasses
    simp only [Package.size, Package.addClass, ExtTreeMap.size_insert, if_neg hnew,
      Nat.add_right_comm]

theorem size_foldl_of_warnings {entries : List (String × SchemaType)}
    (h : (entries.foldl (add m) x).warnings = []) :
    (entries.foldl (add m) x).package.size = x.package.size + entries.length := by
  induction entries generalizing x with
  | nil => rfl
  | cons entry entries ih =>
    rw [List.foldl_cons] at h ⊢
    have hnew := (warnings_add_eq_nil_iff.mp ((warnings_foldl_eq_nil_iff _ _).mp h).1).2
    rw [ih h, size_add hnew, List.length_cons]
    omega

end Translation

/-! ### The package of a model -/

/-- The members of the classes have bounds that are words exactly if each has its type. -/
theorem membersFit_iff : MembersFit m ↔ ∀ entry ∈ m.types.toList,
    (m.own? entry.2).any Property.isEnum = false →
      ∀ p ∈ m.members entry.2, memberType? m p = .ok (memberType m p) :=
  forall₂_congr fun _ _ => forall_congr' fun _ => forall₂_congr fun _ _ =>
    memberType?_eq_ok_iff.symm

/-- A model is translated exactly if each member of a class has its type. -/
theorem translate?_eq_ok_iff {package : String} {x : Translation} :
    translate? m package = .ok x ↔ (∀ entry ∈ m.types.toList,
      (m.own? entry.2).any Property.isEnum = false →
        ∀ p ∈ m.members entry.2, memberType? m p = .ok (memberType m p)) ∧
      translate m package = x := by
  rw [← membersFit_iff, translate?]
  split
  · next hfit => rw [Except.ok.injEq, and_iff_right hfit]
  · next hfit => exact iff_of_false (fun h => by cases h) fun h => hfit h.1

theorem warnings_translate (m : Model) (package : String) : ∃ repeated, AreRepeated m repeated ∧
    (translate m package).warnings =
      repeated.map fun entry => .duplicateName entry.1 (typeName m entry.2) := by
  let x : Translation := { package := { name := package } }
  have hempty : ∀ name, x.package.contains name = true ↔
      ∃ entry ∈ ([] : List (String × SchemaType)), typeName m entry.2 = name := by
    simp [x, Package.contains]
  have hordered := pairwise_toList_types m
  rw [← List.nil_append m.types.toList] at hordered
  have h := Translation.warnings_foldl hordered hempty
  refine ⟨_, ⟨fun {path t} => ?_, hordered.filter _⟩, h.trans (List.nil_append _)⟩
  have hmem : ∀ entry : String × SchemaType,
      entry ∈ m.types.toList ↔ m.type? entry.1 = some entry.2 :=
    fun _ => ExtTreeMap.mem_toList_iff_getElem?_eq_some
  simp only [List.mem_filter, decide_eq_true_eq, List.nil_append, hmem, IsRepeated, Prod.exists]

theorem length_warnings_translate (m : Model) (package : String) :
    (translate m package).warnings.length + (typeNames m).card = m.types.size := by
  let x : Translation := { package := { name := package } }
  have hempty : ∀ name, x.package.contains name = true ↔ name ∈ (∅ : Finset String) := by
    simp [x, Package.contains]
  have h := Translation.length_warnings_foldl (m := m) m.types.toList hempty
  rw [Finset.empty_union, ExtTreeMap.length_toList, Finset.card_empty, List.length_nil,
    Nat.add_zero, Nat.zero_add] at h
  exact h

section NoWarnings

variable (h : (translate m package).warnings = [])

include h

/-- Without warnings a type is the last of its name. -/
theorem isLast_of_warnings {P : SchemaType → Prop} (ht : m.type? path = some t) (hP : P t)
    (hname : ∀ t', P t' → typeName m t' = typeName m t) : m.IsLast P path t where
  type := ht
  holds := hP
  greatest ht' hP' := eq_of_typeName_eq h ht' ht (hname _ hP') ▸ String.le_refl _

/-- Without warnings the types of a name are of one kind. -/
theorem not_clash_of_warnings (name : String) : ¬Clash m name := by
  rintro ⟨⟨path, t, ht, hclass⟩, path', t', ht', henum⟩
  obtain rfl := eq_of_typeName_eq h ht ht' (hclass.1.trans henum.1.symm)
  rw [ht, Option.some.injEq] at ht'
  exact absurd (hclass.2.symm.trans (ht' ▸ henum.2)) Bool.false_ne_true

theorem oneToOne_of_warnings : OneToOne m (translate m package).package where
  enum {path t} ht hchoice := by
    have henum : IsEnumNamed m (typeName m t) t := ⟨rfl, isChoice_iff.mp hchoice⟩
    refine ⟨getElem?_enums_eq_some_iff.mpr
      ⟨path, t, isLast_of_warnings h ht henum fun _ => And.left, rfl⟩, fun hclass => ?_⟩
    exact not_clash_of_warnings h _ ⟨mem_classes_translate_iff.mp hclass, path, t, ht, henum⟩
  «class» {path t} ht hchoice := by
    have hclass : IsClassNamed m (typeName m t) t :=
      ⟨rfl, Bool.eq_false_iff.mpr fun henum => hchoice (isChoice_iff.mpr henum)⟩
    refine ⟨getElem?_classes_eq_some_iff.mpr
      ⟨path, t, isLast_of_warnings h ht hclass fun _ => And.left, rfl⟩, fun henum => ?_⟩
    exact not_clash_of_warnings h _ ⟨⟨path, t, ht, hclass⟩, mem_enums_translate_iff.mp henum⟩
  injective := eq_of_typeName_eq h
  surjective := contains_translate_iff.mp
  size := by
    have hsize := Translation.size_foldl_of_warnings h
    rw [ExtTreeMap.length_toList] at hsize
    simpa [translate, Package.size] using hsize

end NoWarnings

/-- **Warnings.**  A model whose members have bounds that are words is translated.  The warnings are
one for each type whose name is that of a type at a smaller path, in the order of the types' paths;
they are as many as there are types more than names.  If there are none, each type has a place of
its own in the package. -/
theorem warnings_of_translate (m : Model) (package : String) :
    (MembersFit m → ∃ x, translate? m package = .ok x) ∧
      ∀ x, translate? m package = .ok x →
        (∃ repeated, AreRepeated m repeated ∧ x.warnings =
          repeated.map fun entry => .duplicateName entry.1 (typeName m entry.2)) ∧
        x.warnings.length + (typeNames m).card = m.types.size ∧
        (x.warnings = [] → OneToOne m x.package) := by
  refine ⟨fun hfit => ⟨_, translate?_eq_ok_iff.mpr ⟨membersFit_iff.mp hfit, rfl⟩⟩, fun x hx => ?_⟩
  obtain ⟨-, rfl⟩ := translate?_eq_ok_iff.mp hx
  exact ⟨warnings_translate m package, length_warnings_translate m package, oneToOne_of_warnings⟩

/-- A choice and two objects with the same name, and another choice. -/
def sameNames : List (Yaml.Node × Yaml.Node) :=
  let object := Yaml.Node.mapping [(.string "type", .string "object")]
  let choice := Yaml.Node.mapping
    [(.string "type", .string "string"), (.string "enum", .sequence [.string "x", .string "y"])]
  [(.string "MyType", choice), (.string "my_type", object), (.string "myType", object),
    (.string "other", choice)]

/-- The class is overwritten by a later one, and the enum is kept beside it; without the first two
types, there are no warnings. -/
theorem sameNames_warnings :
    (∃ m x repeated, m.Reachable ∧ translate? m "p" = .ok x ∧ m.types.size = 4 ∧
      x.package.size = 3 ∧ x.warnings = [.duplicateName "#/components/schemas/myType" "MyType",
        .duplicateName "#/components/schemas/my_type" "MyType"] ∧
      AreRepeated m repeated ∧
      x.warnings = repeated.map (fun entry => .duplicateName entry.1 (typeName m entry.2)) ∧
      x.warnings.length + (typeNames m).card = m.types.size) ∧
    ∃ m x, m.Reachable ∧ translate? m "p" = .ok x ∧ m.types.size = 2 ∧ x.warnings = [] ∧
      OneToOne m x.package := by
  have hrun : (Schema.extract (Schema.documentOf sameNames)).toOption.any (fun y =>
      let m := (Schema.resolve y.model y.errors).model
      (translate? m "p").toOption.any fun x => m.types.size = 4 ∧ x.package.size = 3 ∧
        x.warnings = [.duplicateName "#/components/schemas/myType" "MyType",
          .duplicateName "#/components/schemas/my_type" "MyType"]) = true := by
    decide +kernel
  have hrun' : (Schema.extract (Schema.documentOf (sameNames.drop 2))).toOption.any (fun y =>
      let m := (Schema.resolve y.model y.errors).model
      (translate? m "p").toOption.any fun x => m.types.size = 2 ∧ x.warnings = []) = true := by
    decide +kernel
  obtain ⟨y, hy, hrun⟩ := Schema.exists_of_toOption_any hrun
  obtain ⟨x, hx, hrun⟩ := Schema.exists_of_toOption_any hrun
  obtain ⟨hsize, hpackage, hwarnings⟩ := of_decide_eq_true hrun
  obtain ⟨y', hy', hrun'⟩ := Schema.exists_of_toOption_any hrun'
  obtain ⟨x', hx', hrun'⟩ := Schema.exists_of_toOption_any hrun'
  obtain ⟨hsize', hwarnings'⟩ := of_decide_eq_true hrun'
  obtain ⟨⟨repeated, hrepeated, hmap⟩, hcount, -⟩ := (warnings_of_translate _ "p").2 x hx
  refine ⟨⟨_, x, repeated, (Schema.reachable_of_extract hy).2 y.errors, hx, hsize, hpackage,
    hwarnings, hrepeated, hmap, hcount⟩, _, x', (Schema.reachable_of_extract hy').2 y'.errors, hx',
    hsize', hwarnings', ?_⟩
  exact ((warnings_of_translate _ "p").2 x' hx').2.2 hwarnings'

end SchemaBeans.Java
