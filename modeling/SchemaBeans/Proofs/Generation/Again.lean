import SchemaBeans.Proofs.Generation.Stored

/-!
# Generation — running again

A run with leave to delete, after one that succeeded with the same output, package and text, deletes
the sources that the first run wrote, and any others in the store directory, and writes the first
ones again.  If there are no others it succeeds and leaves everything as it was
(`exists_generate_again`, `Stores.eq_of_stores`).

There are others only if the first run overlooked the store directory: then the sources that were
there have been left over, but for those that it wrote over (`IsLeftover`), and the second run
deletes them (`generate_again_iff`, `oldSource_deletedLater`).
-/

namespace SchemaBeans.Java.Package

/-- A name in the package is that of an enum, or else of a class. -/
theorem exists_of_contains {p : Package} {name : String} (h : p.contains name = true) :
    (∃ e, p.enums[name]? = some e) ∨
      p.enums[name]? = none ∧ ∃ c, p.classes[name]? = some c := by
  cases he : p.enums[name]? with
  | some e => exact Or.inl ⟨e, rfl⟩
  | none =>
    rw [contains, Bool.or_eq_true, Std.ExtTreeMap.contains_eq_isSome_getElem?,
      Std.ExtTreeMap.contains_eq_isSome_getElem?, he, Option.isSome_iff_exists] at h
    exact Or.inr ⟨rfl, h.resolve_right Bool.false_ne_true⟩

end SchemaBeans.Java.Package

namespace SchemaBeans.Generation

open Files (Entry Location System)
open Files.System (Fits)

variable {s s' s'' : System} {output package text directory name : String} {force : Bool}
  {store l : Location} {removed removed' : List Location} {p : Java.Package} {stats : Stats}
  {product : Product}

/-- The location is that of a source which was overlooked and is not that of a type. -/
def IsLeftover (s : System) (directory : String) (store : Location) (p : Java.Package)
    (l : Location) : Prop :=
  Overlooked s directory store ∧ IsSourceIn s store l ∧ ¬IsStored store p l

/-- What is stored for a type depends on the package alone, and is a file. -/
theorem exists_content_of_isStored (hl : IsStored store p l) :
    ∃ content, ∀ {s s' directory removed}, Stores s directory store removed p s' →
      s'.entry? l = some (.file content) := by
  obtain ⟨name, hname, rfl⟩ := hl
  rcases Java.Package.exists_of_contains hname with ⟨e, he⟩ | ⟨he, c, hc⟩
  · exact ⟨_, fun h => h.ofEnum he⟩
  · exact ⟨_, fun h => h.ofClass he hc⟩

namespace Stores

variable (h : Stores s directory store removed p s')

include h

/-- After a run, the sources in the store directory are those of the types and those left over. -/
theorem isLeftover_iff :
    IsLeftover s directory store p l ↔ IsSourceIn s' store l ∧ ¬IsStored store p l := by
  refine ⟨?_, ?_⟩
  · rintro ⟨hover, hsource, hl⟩
    have hstays : l ∉ removed := fun hmem => (h.mem_removed.mp hmem).2 hover
    obtain ⟨name, content, rfl, hname, hfile⟩ := hsource
    exact ⟨⟨name, content, rfl, hname, h.kept hfile hstays hl⟩, hl⟩
  · rintro ⟨⟨name, content, rfl, hname, hfile⟩, hl⟩
    cases he : s.entry? (store ++ [name]) with
    | none =>
      -- where nothing was there is nothing, or a directory on the way
      have hmade := (h.missing he hl).symm.trans hfile
      split at hmade <;> cases hmade
    | some e =>
      have hstays : store ++ [name] ∉ removed := fun hmem => by
        cases (h.gone hmem hl).symm.trans hfile
      obtain rfl := Option.some.inj ((h.kept he hstays hl).symm.trans hfile)
      have hsource : IsSourceIn s store (store ++ [name]) := ⟨name, content, rfl, hname, he⟩
      exact ⟨by_contra fun hnot => hstays (h.mem_removed.mpr ⟨hsource, hnot⟩), hsource, hl⟩

/-- **Storing the same again.**  If nothing has been left over, everything is as it was. -/
theorem eq_of_stores (h' : Stores s' directory store removed' p s'')
    (hno : ∀ l, ¬IsLeftover s directory store p l) : s'' = s' := by
  refine System.IsTree.ext h'.isTree h.isTree h'.workingDirectory fun l => ?_
  by_cases hl : IsStored store p l
  · obtain ⟨content, hcontent⟩ := exists_content_of_isStored hl
    rw [hcontent h, hcontent h']
  · have hstays : l ∉ removed' := fun hmem =>
      hno l (h.isLeftover_iff.mpr ⟨(h'.mem_removed.mp hmem).1, hl⟩)
    cases he : s'.entry? l with
    | some e => exact h'.kept he hstays hl
    | none =>
      have hnot : l ∉ s'.way directory := fun hway => by
        cases he.symm.trans (h.isDirectoryAt.directory_of_mem_way hway)
      rw [h'.missing he hl, if_neg hnot]

/-- What has been left over is deleted later. -/
theorem gone_of_isLeftover (hf : System.pathFault? directory = none)
    (h' : Stores s' directory store removed' p s'')
    (hl : IsLeftover s directory store p l) : s'.entry? l ≠ none ∧ s''.entry? l = none := by
  obtain ⟨hsource, hnot⟩ := h.isLeftover_iff.mp hl
  have hseen : ¬Overlooked s' directory store := fun ho => by
    cases ho.1.symm.trans (System.status_eq_directory_iff.mpr ⟨hf, store, h.isDirectoryAt⟩)
  refine ⟨?_, h'.gone (h'.mem_removed.mpr ⟨hsource, hseen⟩) hnot⟩
  obtain ⟨-, content, -, -, hfile⟩ := hsource
  rw [hfile]
  nofun

end Stores

/-- After a run that succeeded and left nothing over, one with leave to delete succeeds. -/
theorem exists_generate_again (ht : (translate package text).result = .ok product)
    (hf : System.pathFault? (storeDirectory output package) = none)
    (h : Stores s (storeDirectory output package) store removed product.package s')
    (hfits : ∀ name, product.package.contains name = true →
      Fits (storeDirectory output package) (sourceName name))
    (hno : ∀ l, ¬IsLeftover s (storeDirectory output package) store product.package l) :
    ∃ stats, (generate output package true text s').result = .ok stats := by
  obtain ⟨count, hprepare⟩ := exists_prepare_of_fits h.isTree hf h.isDirectoryAt
    fun name hsource => by
      have hstored := not_not.mp fun hnot => hno _ (h.isLeftover_iff.mpr ⟨hsource, hnot⟩)
      obtain ⟨name', hname', he⟩ := hstored
      rw [sourceLocation, List.append_cancel_left_eq, List.cons.injEq] at he
      exact he.1 ▸ hfits name' hname'
  obtain ⟨store', removed', hprepared, -⟩ := exists_prepared h.isTree hprepare
  obtain rfl := hprepared.store_eq h.isDirectoryAt
  obtain ⟨paths, hwrite⟩ := (exists_writeAll_iff hprepared.isDirectoryAt
    fun _ => not_mem_of_mem_sources ht).mpr fun source hsource => by
      have hname := (contains_iff_mem_sources ht).mpr (List.mem_map_of_mem hsource)
      obtain ⟨content, hcontent⟩ := exists_content_of_isStored ⟨source.1, hname, rfl⟩
      refine ⟨hfits source.1 hname, ?_⟩
      -- the file is as the first run left it, or has been deleted
      by_cases hgone : sourceLocation store' source.1 ∈ removed'
      · rw [hprepared.gone hgone]
        simp
      · rw [hprepared.kept (hcontent h) hgone]
        simp
  exact ⟨_, (generate_of_parts ht hprepare hwrite).1⟩

/-- **Running again.**  For every tree of files, every output, package name and text, let a run
succeed, with or without leave to delete.  Then one with leave to delete succeeds, writes as many
files and leaves everything as it was, exactly if the first one left over no sources.  It left over
some only if it overlooked the store directory, which takes an output with a step up. -/
theorem generate_again_iff (hs : s.IsTree) (hpackage : Java.isPackageName package = true)
    (h : (generate output package force text s).result = .ok stats) :
    ∃ product store, (translate package text).result = .ok product ∧
      (generate output package force text s).system.IsDirectoryAt
        (storeDirectory output package) store ∧
      ((∃ stats', (generate output package true text
            (generate output package force text s).system).result = .ok stats' ∧
          stats'.written = stats.written ∧
          (generate output package true text
            (generate output package force text s).system).system =
              (generate output package force text s).system) ↔
        ∀ l, ¬IsLeftover s (storeDirectory output package) store product.package l) ∧
      ((∃ l, IsLeftover s (storeDirectory output package) store product.package l) →
        ".." ∈ Files.Path.names output) := by
  obtain ⟨product, store, removed, ht, hstores, -, hfits, -, hwritten⟩ :=
    exists_stores_of_generate hs h
  obtain ⟨-, count, -, -, hprepare, -⟩ := exists_parts_of_generate h
  have hf := pathFault?_of_prepare (storeDirectory_ne_empty hpackage) hprepare
  -- a second run that succeeds stores the same package in the same directory
  have hagain : ∀ {stats'}, (generate output package true text
      (generate output package force text s).system).result = .ok stats' →
      stats'.written = stats.written ∧ ∃ removed',
        Stores (generate output package force text s).system (storeDirectory output package) store
          removed' product.package (generate output package true text
            (generate output package force text s).system).system := by
    intro stats' h'
    obtain ⟨product', store', removed', ht', hstores', -, -, -, hwritten'⟩ :=
      exists_stores_of_generate hstores.isTree h'
    obtain rfl := Except.ok.inj (ht.symm.trans ht')
    obtain rfl := hstores'.store_eq hstores.isDirectoryAt
    exact ⟨hwritten'.trans hwritten.symm, removed', hstores'⟩
  refine ⟨product, store, ht, hstores.isDirectoryAt, ⟨?_, fun hno => ?_⟩, ?_⟩
  · rintro ⟨stats', h', -, hsame⟩ l hl
    obtain ⟨-, removed', hstores'⟩ := hagain h'
    obtain ⟨hthere, hgone⟩ := hstores.gone_of_isLeftover hf hstores' hl
    exact hthere (hsame ▸ hgone)
  · obtain ⟨stats', h'⟩ := exists_generate_again ht hf hstores hfits hno
    obtain ⟨hsame, removed', hstores'⟩ := hagain h'
    exact ⟨stats', h', hsame, hstores.eq_of_stores hstores' hno⟩
  · rintro ⟨l, hover, -⟩
    exact mem_names_of_overlooked hs hpackage hstores.workingDirectory hstores.isDirectoryAt hover

/-- Where a source was deleted, running again changes nothing. -/
theorem withSource_again : ∃ stats stats',
    (generate "out" "pets" true soundText withSource).result = .ok stats ∧
      (generate "out" "pets" true soundText
        (generate "out" "pets" true soundText withSource).system).result = .ok stats' ∧
      stats'.written = stats.written ∧
      (generate "out" "pets" true soundText
        (generate "out" "pets" true soundText withSource).system).system =
          (generate "out" "pets" true soundText withSource).system := by
  obtain ⟨stats, hstats, -⟩ := Schema.exists_of_toOption_any (P := fun _ => true)
    (show (generate "out" "pets" true soundText withSource).result.toOption.any _ = true by
      decide +kernel)
  obtain ⟨product, store, -, -, hiff, hup⟩ :=
    generate_again_iff (show withSource.IsTree by decide +kernel) (by decide +kernel) hstats
  have hdots : ".." ∉ Files.Path.names "out" := by decide +kernel
  obtain ⟨stats', hagain⟩ := hiff.mpr fun l hl => hdots (hup ⟨l, hl⟩)
  exact ⟨stats, stats', hstats, hagain⟩

/-- A source that was overlooked is deleted by the next run, which therefore leaves other files than
the first. -/
theorem oldSource_deletedLater : withSource.IsTree ∧ Java.isPackageName "pets" = true ∧
    ∃ stats stats',
      (generate "missing/../out" "pets" true soundText withSource).result = .ok stats ∧
      (generate "missing/../out" "pets" true soundText
        (generate "missing/../out" "pets" true soundText withSource).system).result =
          .ok stats' ∧
      (generate "missing/../out" "pets" true soundText
        (generate "missing/../out" "pets" true soundText withSource).system).system ≠
          (generate "missing/../out" "pets" true soundText withSource).system := by
  obtain ⟨stats, hstats, -⟩ := Schema.exists_of_toOption_any (P := fun _ => true)
    (show (generate "missing/../out" "pets" true soundText withSource).result.toOption.any _ =
      true by decide +kernel)
  obtain ⟨stats', hstats', -⟩ := Schema.exists_of_toOption_any (P := fun _ => true)
    (show (generate "missing/../out" "pets" true soundText
      (generate "missing/../out" "pets" true soundText withSource).system).result.toOption.any _ =
        true by decide +kernel)
  refine ⟨by decide +kernel, by decide +kernel, stats, stats', hstats, hstats', fun he => ?_⟩
  have hentry := congrArg (System.entry? · ["home", "out", "pets", "Old.java"]) he
  revert hentry
  decide +kernel

end SchemaBeans.Generation
