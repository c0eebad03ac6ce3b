import Mathlib.Algebra.Ring.Nat
import Mathlib.Data.List.Forall2
import SchemaBeans.Proofs.Extraction.Warnings

/-!
# Extraction — each component schema by itself

An extraction keeps one model and one record of errors for all component schemas, and it prunes by
looking through all of them.  Still every component schema of a path-safe document comes out as if
the document had no other: the extraction is the union of those of the documents with one component
schema each (`Extraction.IsUnion`), and these have no path in common, since each of them mentions
paths within its own schema only (`mentions_ofEntries`).

So schemas may be added, taken away or spoilt, and outside of their paths nothing changes
(`Extraction.IsUnion.agreeOutside`).
-/

namespace SchemaBeans.Schema

open Yaml (Node)
open Shape (memberPaths places)

variable {schemas entries : List (Node × Node)} {entry : Node × Node} {q : String}

/-- The paths of component schemas. -/
def componentPaths (schemas : List (Node × Node)) : List String :=
  (namesOf schemas).map (Path.child Path.base)

/-! ### Documents with fewer component schemas -/

/-- The sites of some component schemas are sites of all. -/
theorem IsSite.mono {c : Site} (h : IsSite entries c) (hsub : entries ⊆ schemas) :
    IsSite schemas c := by
  obtain ⟨top, ⟨⟨key, hkey, hname⟩, hpath⟩, hreach⟩ := h
  exact ⟨top, ⟨⟨key, hsub hkey, hname⟩, hpath⟩, hreach⟩

theorem SafeNames.sublist (h : SafeNames schemas) (hsub : entries.Sublist schemas) :
    SafeNames entries :=
  ⟨fun name hn => h.isSegment name ((hsub.filterMap _).subset hn),
    h.nodup.sublist (hsub.filterMap _)⟩

theorem PathSafe.sublist (h : PathSafe schemas) (hsub : entries.Sublist schemas) :
    PathSafe entries where
  components := h.components.sublist hsub
  members hc := h.members (hc.mono hsub.subset)

theorem PathSafe.singleton (h : PathSafe schemas) (he : entry ∈ schemas) : PathSafe [entry] :=
  h.sublist (List.singleton_sublist.mpr he)

/-- Component schemas have the shapes that each has by itself. -/
theorem Shape.ofEntries_eq_flatMap (entries : List (Node × Node)) :
    Shape.ofEntries entries = entries.flatMap fun entry => Shape.ofEntries [entry] := by
  induction entries with
  | nil => rfl
  | cons entry entries ih =>
    rw [List.flatMap_cons, ← ih, ofEntries_eq, ofEntries_eq entries, ofEntries_eq [entry],
      ← List.filterMap_append, List.singleton_append]

namespace Extraction

/-! ### Unions -/

/-- There is a property, a type or an error at the path, or a warning about it. -/
def Mentions (x : Extraction) (q : String) : Prop :=
  (x.model.property? q).isSome ∨ (x.model.type? q).isSome ∨ (x.errors.cause? q).isSome ∨
    ∃ w ∈ x.warnings, w.path = q

/-- The extraction has what the others have, of which no two mention the same path, and nothing
else. -/
structure IsUnion (x : Extraction) (parts : List Extraction) : Prop where
  property {q : String} {p : Property} :
    x.model.property? q = some p ↔ ∃ part ∈ parts, part.model.property? q = some p
  type {q : String} {t : SchemaType} :
    x.model.type? q = some t ↔ ∃ part ∈ parts, part.model.type? q = some t
  error {q : String} {c : Cause} :
    x.errors.cause? q = some c ↔ ∃ part ∈ parts, part.errors.cause? q = some c
  warnings : x.warnings = parts.flatMap (·.warnings)
  count : x.count = (parts.map (·.count)).sum
  disjoint : parts.Pairwise fun part other => ∀ q, part.Mentions q → ¬other.Mentions q

instance (paths : List String) (q : String) : Decidable (Covered paths q) :=
  inferInstanceAs (Decidable (∃ _ ∈ _, _))

/-- The extractions have the same properties, types, errors and warnings outside of the paths. -/
structure AgreeOutside (x : Extraction) (paths : List String) (y : Extraction) : Prop where
  property {q : String} : ¬Covered paths q → x.model.property? q = y.model.property? q
  type {q : String} : ¬Covered paths q → x.model.type? q = y.model.type? q
  error {q : String} : ¬Covered paths q → x.errors.cause? q = y.errors.cause? q
  warnings : x.warnings.filter (fun w => ¬Covered paths w.path) =
    y.warnings.filter fun w => ¬Covered paths w.path

section Unions

variable {x y : Extraction} {before changed changed' after : List Extraction} {paths : List String}

/-- What is mentioned elsewhere only may be looked for in the other parts. -/
theorem exists_part_iff {P : Extraction → Prop} (hP : ∀ part, P part → part.Mentions q)
    (hq : ¬Covered paths q) (hc : ∀ part ∈ changed, ∀ q, part.Mentions q → Covered paths q) :
    (∃ part ∈ before ++ changed ++ after, P part) ↔ ∃ part ∈ before ++ after, P part := by
  refine exists_congr fun part => and_congr_left fun hpart => ?_
  have hnot : part ∉ changed := fun hmem => hq (hc part hmem q (hP part hpart))
  simp only [List.mem_append, hnot, or_false]

theorem filter_warnings_eq_nil {parts : List Extraction}
    (hc : ∀ part ∈ parts, ∀ q, part.Mentions q → Covered paths q) :
    (parts.flatMap (·.warnings)).filter (fun w => ¬Covered paths w.path) = [] := by
  rw [List.filter_eq_nil_iff]
  intro w hw
  obtain ⟨part, hpart, hw⟩ := List.mem_flatMap.mp hw
  have hcov := hc part hpart w.path (Or.inr (Or.inr (Or.inr ⟨w, hw, rfl⟩)))
  simpa using hcov

/-- Unions that differ in some of the parts agree outside of what these parts mention. -/
theorem IsUnion.agreeOutside (h : x.IsUnion (before ++ changed ++ after))
    (h' : y.IsUnion (before ++ changed' ++ after))
    (hc : ∀ part ∈ changed, ∀ q, part.Mentions q → Covered paths q)
    (hc' : ∀ part ∈ changed', ∀ q, part.Mentions q → Covered paths q) :
    x.AgreeOutside paths y where
  property {q} hq := by
    have hP : ∀ (p : Property) (part : Extraction), part.model.property? q = some p →
        part.Mentions q :=
      fun p part hp => Or.inl (by rw [hp]; rfl)
    refine Option.ext fun p => ?_
    rw [h.property, h'.property, exists_part_iff (hP p) hq hc, exists_part_iff (hP p) hq hc']
  type {q} hq := by
    have hP : ∀ (t : SchemaType) (part : Extraction), part.model.type? q = some t →
        part.Mentions q :=
      fun t part ht => Or.inr (Or.inl (by rw [ht]; rfl))
    refine Option.ext fun t => ?_
    rw [h.type, h'.type, exists_part_iff (hP t) hq hc, exists_part_iff (hP t) hq hc']
  error {q} hq := by
    have hP : ∀ (c : Cause) (part : Extraction), part.errors.cause? q = some c →
        part.Mentions q :=
      fun c part hcause => Or.inr (Or.inr (Or.inl (by rw [hcause]; rfl)))
    refine Option.ext fun c => ?_
    rw [h.error, h'.error, exists_part_iff (hP c) hq hc, exists_part_iff (hP c) hq hc']
  warnings := by
    simp only [h.warnings, h'.warnings, List.flatMap_append, List.filter_append,
      filter_warnings_eq_nil hc, filter_warnings_eq_nil hc']

end Unions

/-! ### Component schemas -/

/-- Component schemas mention paths within their own only. -/
theorem covered_of_mentions (hsafe : PathSafe schemas) (hq : (ofEntries schemas).Mentions q) :
    Covered (componentPaths schemas) q := by
  have hfilled := isFilled_ofEntries hsafe
  have hpath : ∀ m ∈ Shape.ofEntries schemas, Path.isWithin q (Path.child Path.base m.1) = true →
      Covered (componentPaths schemas) q := by
    intro m hm hw
    refine ⟨_, List.mem_map_of_mem ?_, hw⟩
    rw [← Shape.map_fst_ofEntries]
    exact List.mem_map_of_mem hm
  rcases hq with hp | ht | hc | ⟨w, hw, rfl⟩
  · obtain ⟨p, hp⟩ := Option.isSome_iff_exists.mp hp
    obtain ⟨m, hm, s, hk, -⟩ := (hfilled.property?_eq_some_iff hsafe).mp hp
    exact hpath m hm hk.isWithin
  · obtain ⟨t, ht⟩ := Option.isSome_iff_exists.mp ht
    obtain ⟨m, hm, s, hk, -⟩ := (hfilled.type?_eq_some_iff hsafe (type?_ofEntries_base _)).mp ht
    exact hpath m hm hk.isWithin
  · obtain ⟨c, hc⟩ := Option.isSome_iff_exists.mp hc
    obtain ⟨m, hm, fault, hf, -⟩ := hfilled.cause?_eq_some_iff.mp hc
    exact hpath m hm (Shape.isWithin_of_mem_places hf)
  · rw [warnings_ofEntries hsafe, Shape.warningsBelow_eq] at hw
    obtain ⟨m, hm, hw⟩ := List.mem_flatMap.mp hw
    exact hpath m hm (Shape.isWithin_of_mem_warnings hw)

theorem covered_componentPaths_singleton_iff : Covered (componentPaths [entry]) q ↔
    ∃ name, entry.1.scalarText? = some name ∧
      Path.isWithin q (Path.child Path.base name) = true := by
  simp only [Covered, componentPaths, namesOf, List.mem_map, List.mem_filterMap,
    List.mem_singleton, exists_eq_left]
  refine ⟨?_, ?_⟩
  · rintro ⟨_, ⟨name, hname, rfl⟩, hw⟩
    exact ⟨name, hname, hw⟩
  · rintro ⟨name, hname, hw⟩
    exact ⟨_, ⟨name, hname, rfl⟩, hw⟩

/-- Some component schemas mention their own paths only. -/
theorem covered_of_mem_parts {part : Extraction} (hsafe : PathSafe schemas)
    (hsub : entries ⊆ schemas) (hpart : part ∈ entries.map fun entry => ofEntries [entry])
    (hq : part.Mentions q) : Covered (componentPaths entries) q := by
  obtain ⟨entry, he, rfl⟩ := List.mem_map.mp hpart
  obtain ⟨name, hname, hw⟩ := covered_componentPaths_singleton_iff.mp
    (covered_of_mentions (hsafe.singleton (hsub he)) hq)
  exact ⟨_, List.mem_map_of_mem (List.mem_filterMap.mpr ⟨entry, he, hname⟩), hw⟩

/-- What holds for the extraction of a component schema if it does for a member's shape. -/
theorem exists_single_iff {P : Extraction → Prop} {Q : String × Shape → Prop}
    (h : ∀ entry ∈ schemas, P (ofEntries [entry]) ↔ ∃ m ∈ Shape.ofEntries [entry], Q m) :
    (∃ m ∈ Shape.ofEntries schemas, Q m) ↔
      ∃ part ∈ schemas.map fun entry => ofEntries [entry], P part := by
  simp only [Shape.ofEntries_eq_flatMap schemas, List.mem_flatMap, List.mem_map,
    exists_exists_and_eq_and]
  refine ⟨?_, ?_⟩
  · rintro ⟨m, ⟨entry, he, hm⟩, hQ⟩
    exact ⟨entry, he, (h entry he).mpr ⟨m, hm, hQ⟩⟩
  · rintro ⟨entry, he, hP⟩
    obtain ⟨m, hm, hQ⟩ := (h entry he).mp hP
    exact ⟨m, ⟨entry, he, hm⟩, hQ⟩

/-- No path is mentioned by two component schemas, for their names are segments and not alike. -/
theorem disjoint_ofEntries (hsafe : PathSafe schemas) :
    (schemas.map fun entry => ofEntries [entry]).Pairwise fun part other =>
      ∀ q, part.Mentions q → ¬other.Mentions q := by
  have hnames := List.pairwise_filterMap.mp hsafe.components.nodup
  have hseg : ∀ entry ∈ schemas, ∀ name, entry.1.scalarText? = some name → Path.IsSegment name :=
    fun entry he name hname =>
      hsafe.components.isSegment name (List.mem_filterMap.mpr ⟨entry, he, hname⟩)
  refine List.pairwise_map.mpr (hnames.imp_of_mem ?_)
  intro entry other he ho hne q hq hq'
  obtain ⟨name, hname, hw⟩ := covered_componentPaths_singleton_iff.mp
    (covered_of_mentions (hsafe.singleton he) hq)
  obtain ⟨name', hname', hw'⟩ := covered_componentPaths_singleton_iff.mp
    (covered_of_mentions (hsafe.singleton ho) hq')
  exact hne name hname name' hname' (Path.eq_of_isWithin_children (hseg entry he name hname)
    (hseg other ho name' hname') hw hw')

/-- **Union.**  The component schemas of a path-safe document come out as each does by itself. -/
theorem isUnion_ofEntries (hsafe : PathSafe schemas) :
    (ofEntries schemas).IsUnion (schemas.map fun entry => ofEntries [entry]) := by
  have hfilled := isFilled_ofEntries hsafe
  have hsingle : ∀ entry ∈ schemas, PathSafe [entry] := fun entry he => hsafe.singleton he
  constructor
  case property =>
    intro q p
    rw [hfilled.property?_eq_some_iff hsafe]
    exact exists_single_iff fun entry he =>
      (isFilled_ofEntries (hsingle entry he)).property?_eq_some_iff (hsingle entry he)
  case type =>
    intro q t
    rw [hfilled.type?_eq_some_iff hsafe (type?_ofEntries_base _)]
    exact exists_single_iff fun entry he =>
      (isFilled_ofEntries (hsingle entry he)).type?_eq_some_iff (hsingle entry he)
        (type?_ofEntries_base _)
  case error =>
    intro q c
    rw [hfilled.cause?_eq_some_iff]
    exact exists_single_iff fun entry he =>
      (isFilled_ofEntries (hsingle entry he)).cause?_eq_some_iff
  case warnings =>
    rw [warnings_ofEntries hsafe, Shape.warningsBelow_eq, Shape.ofEntries_eq_flatMap,
      List.flatMap_assoc, List.flatMap_map]
    refine List.flatMap_congr fun entry he => ?_
    rw [warnings_ofEntries (hsingle entry he), Shape.warningsBelow_eq]
  case count =>
    have hone : ((·.count) : Extraction → Nat) ∘ (fun entry => ofEntries [entry]) =
        fun _ => 1 := rfl
    rw [List.map_map, hone, List.map_const', List.sum_replicate_nat, Nat.mul_one]
    rfl
  case disjoint => exact disjoint_ofEntries hsafe

end Extraction

/-- **Siblings.**  The extraction of a path-safe document is the disjoint union of the extractions
of the documents that keep one component schema each, and whatever these mention lies within the
path of that schema.  Documents that differ in some of the component schemas have extractions that
agree outside of the paths of these. -/
theorem extract_siblings {document : Node} (hc : components document = .ok schemas)
    (hsafe : PathSafe schemas) :
    ∃ x, extract document = .ok x ∧
      (∀ documents, List.Forall₂ (fun entry d => components d = .ok [entry]) schemas documents →
        ∃ parts, List.Forall₂ (fun d part => extract d = .ok part) documents parts ∧
          x.IsUnion parts ∧
          List.Forall₂ (fun entry part =>
            ∀ q, part.Mentions q → Extraction.Covered (componentPaths [entry]) q) schemas parts) ∧
      ∀ before changed changed' after document', schemas = before ++ changed ++ after →
        components document' = .ok (before ++ changed' ++ after) →
        PathSafe (before ++ changed' ++ after) →
          ∃ y, extract document' = .ok y ∧
            x.AgreeOutside (componentPaths changed ++ componentPaths changed') y := by
  refine ⟨_, Extraction.extract_of_components hc, fun documents hdocuments => ?_, ?_⟩
  · have hparts := hdocuments.flip.imp fun d entry hd => Extraction.extract_of_components hd
    refine ⟨_, List.forall₂_map_right_iff.mpr hparts, Extraction.isUnion_ofEntries hsafe, ?_⟩
    refine List.forall₂_map_right_iff.mpr (List.forall₂_same.mpr fun entry he q hq => ?_)
    exact Extraction.covered_of_mentions (hsafe.singleton he) hq
  · rintro before changed changed' after document' rfl hc' hsafe'
    have hunion := Extraction.isUnion_ofEntries hsafe
    have hunion' := Extraction.isUnion_ofEntries hsafe'
    rw [List.map_append, List.map_append] at hunion hunion'
    refine ⟨_, Extraction.extract_of_components hc', hunion.agreeOutside hunion' ?_ ?_⟩
    · intro part hpart q hq
      refine Extraction.covered_append.mpr (Or.inl ?_)
      exact Extraction.covered_of_mem_parts hsafe (by simp) hpart hq
    · intro part hpart q hq
      refine Extraction.covered_append.mpr (Or.inr ?_)
      exact Extraction.covered_of_mem_parts hsafe' (by simp) hpart hq

/-- A schema of any type, whose name is empty. -/
def namelessEntry : Node × Node := (.string "", .mapping [(.string "anyOf", .sequence [])])

/-- An object that requires a property which it does not have. -/
def prefixEntry : Node × Node :=
  (.string "a", .mapping [(.string "type", .string "object"),
    (.string "properties", .mapping [(.string "b", .mapping [(.string "type", .string "string")])]),
    (.string "required", .sequence [.string "c"])])

/-- A schema without a type.  Its name continues that of the object. -/
def untypedEntry : Node × Node := (.string "ab", .mapping [])

/-- The schemas with the empty name, with the shorter and with the longer name are extracted each by
itself, and without the object the rest is the same. -/
theorem namesakes_separate :
    components (documentOf [namelessEntry, prefixEntry, untypedEntry]) =
        .ok [namelessEntry, prefixEntry, untypedEntry] ∧
      PathSafe [namelessEntry, prefixEntry, untypedEntry] ∧
      ∃ x, extract (documentOf [namelessEntry, prefixEntry, untypedEntry]) = .ok x ∧
        x.model.properties.keys = ["#/components/schemas/", "#/components/schemas/a",
          "#/components/schemas/a/b"] ∧
        x.errors.paths = ["#/components/schemas/ab"] ∧
        x.warnings = [.anyType "#/components/schemas/",
          .unknownRequired "#/components/schemas/a" "c"] ∧
        (∃ parts, List.Forall₂ (fun d part => extract d = .ok part)
          [documentOf [namelessEntry], documentOf [prefixEntry], documentOf [untypedEntry]] parts ∧
            x.IsUnion parts) ∧
        ∃ y, extract (documentOf [namelessEntry, untypedEntry]) = .ok y ∧
          x.AgreeOutside ["#/components/schemas/a"] y := by
  have hc := components_documentOf [namelessEntry, prefixEntry, untypedEntry]
  have hsafe : PathSafe [namelessEntry, prefixEntry, untypedEntry] := by decide +kernel
  obtain ⟨x, hx, hunion, houtside⟩ := extract_siblings hc hsafe
  obtain ⟨parts, hparts, hdisjoint, -⟩ := hunion
    [documentOf [namelessEntry], documentOf [prefixEntry], documentOf [untypedEntry]]
    (.cons rfl (.cons rfl (.cons rfl .nil)))
  have hremoved := houtside [namelessEntry] [prefixEntry] [] [untypedEntry]
    (documentOf [namelessEntry, untypedEntry]) rfl rfl (by decide +kernel)
  have hrun : (extract (documentOf [namelessEntry, prefixEntry, untypedEntry])).toOption.all
      (fun x => x.model.properties.keys = ["#/components/schemas/", "#/components/schemas/a",
          "#/components/schemas/a/b"] ∧
        x.errors.paths = ["#/components/schemas/ab"] ∧
        x.warnings = [.anyType "#/components/schemas/",
          .unknownRequired "#/components/schemas/a" "c"]) = true := by
    decide +kernel
  rw [hx] at hrun
  obtain ⟨hkeys, hpaths, hwarnings⟩ := of_decide_eq_true hrun
  exact ⟨hc, hsafe, x, hx, hkeys, hpaths, hwarnings, ⟨parts, hparts, hdisjoint⟩, hremoved⟩

end SchemaBeans.Schema
