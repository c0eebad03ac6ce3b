import Mathlib.Data.List.Perm.Subperm
import SchemaBeans.Yaml.Merge

/-!
# Documents — carrying out merge keys

A mapping after merging has entries of its own and entries that its merge key lifted into it, out of
mappings one or two levels below (`Lifted`).  Each keeps its key, and the merge keys of its value
are carried out (`exists_lifted_of_mem`); the keys are some of the mapping's own, and then those
among the lifted that were missing.

What merging does to a node is said once, for any relation between data before and after it
(`Merges`), by recursion over the size of the node.
-/

namespace SchemaBeans.Yaml.Node

/-- The entries that a mapping may have after merging: its own, those of a mapping among its values,
and those of a mapping among the items of a sequence among its values. -/
inductive Lifted (es : List (Node × Node)) : Node × Node → Prop where
  | own {e : Node × Node} (he : e ∈ es) : Lifted es e
  | mapping {k : Node} {fs : List (Node × Node)} {e : Node × Node} (hv : (k, .mapping fs) ∈ es)
      (he : e ∈ fs) : Lifted es e
  | item {k : Node} {items : List Node} {fs : List (Node × Node)} {e : Node × Node}
      (hv : (k, .sequence items) ∈ es) (hm : .mapping fs ∈ items) (he : e ∈ fs) : Lifted es e

variable {n m : Node} {e : Node × Node} {es fs : List (Node × Node)} {ns ms : List Node}
  {p : Node × Option Node} {ps qs sources : List (Node × Option Node)}

theorem sizeOf_snd_lt (he : e ∈ es) : sizeOf e.2 < sizeOf es := by
  have h := List.sizeOf_lt_of_mem he
  obtain ⟨k, v⟩ := e
  simp only [Prod.mk.sizeOf_spec] at h
  dsimp only
  omega

/-- So is one that is lifted from below, and merging goes on with smaller data. -/
theorem Lifted.sizeOf_lt (h : Lifted es e) : sizeOf e.2 < sizeOf es := by
  cases h with
  | own he => exact sizeOf_snd_lt he
  | mapping hv he =>
    have hfs := sizeOf_snd_lt hv
    have hlt := sizeOf_snd_lt he
    simp only [Node.mapping.sizeOf_spec] at hfs
    omega
  | item hv hm he =>
    have hitems := sizeOf_snd_lt hv
    have hfs := List.sizeOf_lt_of_mem hm
    have hlt := sizeOf_snd_lt he
    simp only [Node.sequence.sizeOf_spec] at hitems
    simp only [Node.mapping.sizeOf_spec] at hfs
    omega

/-! ### One level -/

/-- The entries of a mapping itself keep their keys; the merge key has no value of its own. -/
theorem ownEntries_eq_map : ownEntries es =
    es.map fun e => (e.1, if e.1.isString mergeKey then none else e.2.merged?) := by
  induction es with
  | nil => rfl
  | cons e es ih => rw [ownEntries, ih, List.map_cons]

theorem mergedEntries_eq_map : mergedEntries es = es.map fun e => (e.1, e.2.merged?) := by
  induction es with
  | nil => rfl
  | cons e es ih => rw [mergedEntries, ih, List.map_cons]

/-- Entries are complete if each has a value that could be made. -/
theorem complete_eq_some_iff : complete ps = some fs ↔ ps = fs.map fun f => (f.1, some f.2) := by
  induction ps generalizing fs with
  | nil => cases fs <;> simp [complete]
  | cons p ps ih =>
    obtain ⟨k, v⟩ := p
    cases v with
    | none => cases fs <;> simp [complete]
    | some v =>
      simp only [complete, Option.map_eq_some_iff, ih]
      refine ⟨?_, fun h => ?_⟩
      · rintro ⟨rest, rfl, rfl⟩
        rfl
      · cases fs with
        | nil => cases h
        | cons f fs =>
          cases h
          exact ⟨fs, rfl, rfl⟩

/-- Taking out the merge key leaves some of the entries, in another order. -/
theorem takeMergeKey_subperm {α : Type} (entries : List (Node × α)) :
    (takeMergeKey entries).Subperm entries := by
  induction entries with
  | nil => exact List.Subperm.refl _
  | cons entry entries ih =>
    obtain ⟨k, a⟩ := entry
    rw [takeMergeKey]
    split
    · refine List.Perm.subperm ?_ |>.trans (List.sublist_cons_self _ _).subperm
      cases h : entries.getLast? with
      | none => simp [List.getLast?_eq_none_iff.mp h]
      | some last =>
        refine List.perm_append_comm.trans ?_
        rw [Option.toList_some, List.dropLast_append_getLast? last h]
    · exact (List.subperm_cons _).mpr ih

/-- An entry is there after the missing ones are added if it was there or is one of these. -/
theorem mem_of_mem_foldl_addMissing (h : p ∈ sources.foldl addMissing qs) :
    p ∈ qs ∨ p ∈ sources := by
  induction sources generalizing qs with
  | nil => exact Or.inl h
  | cons source sources ih =>
    rcases ih h with h | h
    · rw [addMissing] at h
      split at h
      · exact Or.inl h
      · rcases List.mem_append.mp h with h | h
        · exact Or.inl h
        · exact Or.inr (List.mem_cons.mpr (Or.inl (List.mem_singleton.mp h)))
    · exact Or.inr (List.mem_cons_of_mem _ h)

theorem exists_of_mem_mergedItems? (h : mergedItems? ns = some ms) (hm : m ∈ ms) :
    ∃ n ∈ ns, n.merged? = some m := by
  induction ns generalizing ms with
  | nil =>
    cases h
    cases hm
  | cons n ns ih =>
    rw [mergedItems?] at h
    split at h
    · next m' hm' =>
      obtain ⟨ms, hms, rfl⟩ := Option.map_eq_some_iff.mp h
      rcases List.mem_cons.mp hm with rfl | hm
      · exact ⟨n, List.mem_cons_self, hm'⟩
      · obtain ⟨n', hn', hnm⟩ := ih hms hm
        exact ⟨n', List.mem_cons_of_mem _ hn', hnm⟩
    · cases h

/-! ### The entries that a merge key lifts -/

theorem exists_of_mem_sourcesOfItems? (h : sourcesOfItems? ns = some sources) (hp : p ∈ sources) :
    ∃ fs, .mapping fs ∈ ns ∧ p ∈ mergedEntries fs := by
  induction ns generalizing sources with
  | nil =>
    cases h
    cases hp
  | cons n ns ih =>
    rw [sourcesOfItems?.eq_def] at h
    split at h
    · next heq => cases heq
    · next entries ns' heq =>
      cases heq
      obtain ⟨rest, hrest, rfl⟩ := Option.map_eq_some_iff.mp h
      rcases List.mem_append.mp hp with hp | hp
      · exact ⟨entries, List.mem_cons_self, hp⟩
      · obtain ⟨fs, hfs, hp⟩ := ih hrest hp
        exact ⟨fs, List.mem_cons_of_mem _ hfs, hp⟩
    · cases h

/-- What is merged comes from the value of some key. -/
theorem exists_of_mergeSources? (h : mergeSources? es = some (some sources)) :
    ∃ k v, (k, v) ∈ es ∧ v.sources? = some sources := by
  induction es with
  | nil => cases h
  | cons e es ih =>
    obtain ⟨k, v⟩ := e
    rw [mergeSources?] at h
    split at h
    · exact ⟨k, v, List.mem_cons_self, Option.some.inj h⟩
    · obtain ⟨k', v', hmem, hs⟩ := ih h
      exact ⟨k', v', List.mem_cons_of_mem _ hmem, hs⟩

/-- **Sources.**  Each entry to be merged is lifted from below, with its value merged. -/
theorem exists_lifted_of_mem_sources (h : mergeSources? es = some (some sources))
    (hp : p ∈ sources) : ∃ e, Lifted es e ∧ p = (e.1, e.2.merged?) := by
  have hlift : ∀ {fs}, (∀ e ∈ fs, Lifted es e) → p ∈ mergedEntries fs →
      ∃ e, Lifted es e ∧ p = (e.1, e.2.merged?) := by
    intro fs hfs hp
    rw [mergedEntries_eq_map] at hp
    obtain ⟨e, he, rfl⟩ := List.mem_map.mp hp
    exact ⟨e, hfs e he, rfl⟩
  obtain ⟨k, v, hv, hs⟩ := exists_of_mergeSources? h
  rw [sources?.eq_def] at hs
  split at hs
  · cases hs
    exact hlift (fun e he => .mapping hv he) hp
  · obtain ⟨fs, hfs, hp⟩ := exists_of_mem_sourcesOfItems? hs hp
    exact hlift (fun e he => .item hv hfs he) hp
  · cases hs

/-- What merging makes of the entries of a mapping: some of its own, then the missing ones of those
that its merge key names. -/
theorem exists_of_merged?_mapping (h : (Node.mapping es).merged? = some m) :
    ∃ (fs : List (Node × Node)) (own sources : List (Node × Option Node)), m = .mapping fs ∧
      own.Subperm (ownEntries es) ∧
      sources.foldl addMissing own = fs.map (fun f => (f.1, some f.2)) ∧
      ∀ p ∈ sources, ∃ e, Lifted es e ∧ p = (e.1, e.2.merged?) := by
  rw [merged?] at h
  split at h
  · obtain ⟨fs, hfs, rfl⟩ := Option.map_eq_some_iff.mp h
    refine ⟨fs, ownEntries es, [], rfl, List.Subperm.refl _, complete_eq_some_iff.mp hfs, ?_⟩
    exact fun p hp => by cases hp
  · cases h
  · next sources hs =>
    obtain ⟨fs, hfs, rfl⟩ := Option.map_eq_some_iff.mp h
    exact ⟨fs, _, sources, rfl, takeMergeKey_subperm _, complete_eq_some_iff.mp hfs,
      fun p hp => exists_lifted_of_mem_sources hs hp⟩

/-- An entry after merging is one before it, with the merge keys of its value carried out. -/
theorem exists_lifted_of_mem (hown : qs.Subperm (ownEntries es))
    (hfs : sources.foldl addMissing qs = fs.map fun f => (f.1, some f.2))
    (hsources : ∀ p ∈ sources, ∃ e, Lifted es e ∧ p = (e.1, e.2.merged?)) {f : Node × Node}
    (hf : f ∈ fs) : ∃ e, Lifted es e ∧ e.1 = f.1 ∧ e.2.merged? = some f.2 := by
  have hp : (f.1, some f.2) ∈ sources.foldl addMissing qs :=
    hfs ▸ List.mem_map.mpr ⟨f, hf, rfl⟩
  rcases mem_of_mem_foldl_addMissing hp with hp | hp
  · have hmem := hown.subset hp
    rw [ownEntries_eq_map] at hmem
    obtain ⟨e, he, heq⟩ := List.mem_map.mp hmem
    obtain ⟨hk, hv⟩ := Prod.mk.inj heq
    split at hv
    · cases hv
    · exact ⟨e, .own he, hk, hv⟩
  · obtain ⟨e, he, heq⟩ := hsources _ hp
    obtain ⟨hk, hv⟩ := Prod.mk.inj heq
    exact ⟨e, he, hk.symm, hv.symm⟩

/-! ### All levels -/

/-- What merging does: `P` relates a node to itself, and a collection to one merged from it if it
relates their parts. -/
structure Merges (P : Node → Node → Prop) : Prop where
  same (n : Node) : P n n
  sequence {ns ms : List Node} :
    (∀ m ∈ ms, ∃ n ∈ ns, P n m) → P (.sequence ns) (.sequence ms)
  tagged (tag : String) {n m : Node} : P n m → P (.tagged tag n) (.tagged tag m)
  mapping {es fs : List (Node × Node)} {own sources : List (Node × Option Node)} :
    own.Subperm (ownEntries es) →
    sources.foldl addMissing own = fs.map (fun f => (f.1, some f.2)) →
    (∀ f ∈ fs, ∃ e, Lifted es e ∧ e.1 = f.1 ∧ P e.2 f.2) → P (.mapping es) (.mapping fs)

/-- **Merging.**  A node and what merging makes of it are related as merging relates them. -/
theorem Merges.merged? {P : Node → Node → Prop} (hP : Merges P) :
    ∀ (n : Node) {m : Node}, n.merged? = some m → P n m
  | .null, _, h | .bool _, _, h | .number _, _, h | .string _, _, h => by
    cases h
    exact hP.same _
  | .sequence ns, _, h => by
    obtain ⟨ms, hms, rfl⟩ := Option.map_eq_some_iff.mp h
    refine hP.sequence fun m hm => ?_
    obtain ⟨n, hn, hnm⟩ := exists_of_mem_mergedItems? hms hm
    have hlt := List.sizeOf_lt_of_mem hn
    exact ⟨n, hn, hP.merged? n hnm⟩
  | .tagged tag n, _, h => by
    obtain ⟨m, hm, rfl⟩ := Option.map_eq_some_iff.mp h
    exact hP.tagged tag (hP.merged? n hm)
  | .mapping es, _, h => by
    obtain ⟨fs, own, sources, rfl, hown, hfs, hsources⟩ := exists_of_merged?_mapping h
    refine hP.mapping hown hfs fun f hf => ?_
    obtain ⟨e, he, hk, hv⟩ := exists_lifted_of_mem hown hfs hsources hf
    have hlt := he.sizeOf_lt
    exact ⟨e, he, hk, hP.merged? e.2 hv⟩
termination_by n => sizeOf n

end SchemaBeans.Yaml.Node
