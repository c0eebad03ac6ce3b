import SchemaBeans.Proofs.Generation.Directory
import SchemaBeans.Proofs.Generation.Members
import SchemaBeans.Proofs.Generation.Sources

/-!
# Generation — what a run stores

A run that succeeds changes the files by one rule (`Stores`): the store directory is there, with all
on its way; the file of each type of the package holds the type's source; the sources that were
deleted are gone, but for those files; and everything else is as it was.

All sources in the store directory are said to be deleted.  They are, unless the directory was
overlooked, which takes an output with a step up (`generate_stores`).  Then they all stay, and are
not counted either (`oldSource_stays`).
-/

namespace SchemaBeans.Generation

open Files (Entry Location System)
open Files.System (Fits)
open Schema (Model)

variable {s s' s₁ : System} {output package text directory name : String} {force : Bool}
  {store l : Location} {sources : List (String × String)} {paths : List String} {stats : Stats}
  {product : Product}

/-- The file name of a type's source. -/
def sourceName (name : String) : String := name ++ "." ++ sourceExtension

/-- Where a type's source is stored. -/
def sourceLocation (store : Location) (name : String) : Location := store ++ [sourceName name]

/-- The location is that of the source of one of the package's types. -/
def IsStored (store : Location) (p : Java.Package) (l : Location) : Prop :=
  ∃ name, p.contains name = true ∧ l = sourceLocation store name

theorem sourceLocation_injective (store : Location) :
    Function.Injective (sourceLocation store) := by
  intro name name' h
  rw [sourceLocation, sourceLocation, List.append_cancel_left_eq, List.cons.injEq] at h
  exact sourceName_injective h.1

/-! ### Writing sources -/

/-- The second one is the first one with sources written into a directory. -/
structure Writes (s : System) (store : Location) (sources : List (String × String))
    (s' : System) : Prop where
  isTree : s'.IsTree
  workingDirectory : s'.workingDirectory = s.workingDirectory
  directories {l : Location} : s.entry? l = some .directory → s'.entry? l = some .directory
  source (name : String) : s'.entry? (sourceLocation store name) =
    match Java.sourceOf? sources name with
    | some source => some (.file (Files.encode source))
    | none => s.entry? (sourceLocation store name)
  other {l : Location} : (∀ source ∈ sources, l ≠ sourceLocation store source.1) →
    s'.entry? l = s.entry? l

theorem writes_nil (hs : s.IsTree) : Writes s store [] s where
  isTree := hs
  workingDirectory := rfl
  directories := id
  source _ := rfl
  other _ := rfl

/-- One source is written before the others. -/
theorem Writes.cons {source : String × String}
    (hnot : s.entry? (sourceLocation store source.1) ≠ some .directory)
    (h : Writes (s.put (sourceLocation store source.1) (.file (Files.encode source.2))) store
      sources s') :
    Writes s store (source :: sources) s' where
  isTree := h.isTree
  workingDirectory := h.workingDirectory
  directories hd := h.directories (System.directory_put hnot hd)
  source name := by
    rw [h.source, Java.sourceOf?_cons]
    cases Java.sourceOf? sources name with
    | some last => rfl
    | none =>
      by_cases hname : source.1 = name
      · subst hname
        rw [Option.none_or, if_pos rfl]
        exact System.entry?_put_self hnot
      · rw [Option.none_or, if_neg hname]
        exact System.entry?_put_of_ne fun he => hname (sourceLocation_injective store he).symm
  other {l} hl := by
    rw [List.forall_mem_cons] at hl
    rw [h.other hl.2, System.entry?_put_of_ne hl.1]

/-- A source can be written if its name can be had in the directory, and is not had by a directory
there. -/
theorem write_sourcePath_eq_ok_iff {content : List UInt8} (hd : s.IsDirectoryAt directory store)
    (hname : '/' ∉ name.toList) : s.write (sourcePath directory name) content = .ok s' ↔
      Fits directory (sourceName name) ∧ s.entry? (sourceLocation store name) ≠ some .directory ∧
        s' = s.put (sourceLocation store name) (.file content) :=
  System.write_join_eq_ok_iff hd (isFileName_source hname)

section WriteAll

variable (hd : s.IsDirectoryAt directory store)
  (hnames : ∀ source ∈ sources, '/' ∉ source.1.toList)

include hd hnames

/-- **Writing sources.**  The file of each name holds the last source of the name, and nothing else
changes. -/
theorem writes_of_writeAll (hs : s.IsTree)
    (h : (writeAll directory s sources).result = .ok paths) :
    Writes s store sources (writeAll directory s sources).system := by
  induction sources generalizing s paths with
  | nil => exact writes_nil hs
  | cons source sources ih =>
    obtain ⟨hslash, hnames⟩ := List.forall_mem_cons.mp hnames
    obtain ⟨s', paths', hwrite, hrest, hsystem, -⟩ := exists_of_writeAll_cons h
    obtain ⟨-, hnot, rfl⟩ := (write_sourcePath_eq_ok_iff hd hslash).mp hwrite
    have hput := hs.put hd.directory (isFileName_source hslash) hnot (.file (Files.encode source.2))
    rw [hsystem]
    exact .cons hnot (ih (hd.put hnot) hnames hput hrest)

/-- Sources can be written if their names can be had in the directory, and are not had by
directories there. -/
theorem exists_writeAll_iff : (∃ paths, (writeAll directory s sources).result = .ok paths) ↔
    ∀ source ∈ sources, Fits directory (sourceName source.1) ∧
      s.entry? (sourceLocation store source.1) ≠ some .directory := by
  induction sources generalizing s with
  | nil => simp [writeAll_nil]
  | cons source sources ih =>
    obtain ⟨hslash, hnames⟩ := List.forall_mem_cons.mp hnames
    rw [List.forall_mem_cons]
    refine ⟨?_, ?_⟩
    · rintro ⟨paths, h⟩
      obtain ⟨s', paths', hwrite, hrest, -⟩ := exists_of_writeAll_cons h
      obtain ⟨hfits, hnot, rfl⟩ := (write_sourcePath_eq_ok_iff hd hslash).mp hwrite
      refine ⟨⟨hfits, hnot⟩, fun source' hmem => ?_⟩
      obtain ⟨hfits', hnot'⟩ := (ih (hd.put hnot) hnames).mp ⟨paths', hrest⟩ source' hmem
      exact ⟨hfits', fun he => hnot' (System.directory_put hnot he)⟩
    · rintro ⟨⟨hfits, hnot⟩, hall⟩
      let s₁ := s.put (sourceLocation store source.1) (.file (Files.encode source.2))
      have hrest : ∀ source' ∈ sources, Fits directory (sourceName source'.1) ∧
          s₁.entry? (sourceLocation store source'.1) ≠ some .directory := by
        intro source' hmem
        refine ⟨(hall source' hmem).1, ?_⟩
        by_cases he : sourceLocation store source'.1 = sourceLocation store source.1
        · rw [he, System.entry?_put_self hnot]
          simp
        · rw [System.entry?_put_of_ne he]
          exact (hall source' hmem).2
      obtain ⟨paths, hpaths⟩ := (ih (hd.put hnot) hnames).mpr hrest
      have hwrite : s.write (sourcePath directory source.1) (Files.encode source.2) = .ok s₁ :=
        (write_sourcePath_eq_ok_iff hd hslash).mpr ⟨hfits, hnot, rfl⟩
      refine ⟨sourcePath directory source.1 :: paths, ?_⟩
      simp only [writeAll_cons, hwrite, s₁, hpaths, Except.map]

end WriteAll

/-- The paths of written sources are theirs. -/
theorem paths_of_writeAll (h : (writeAll directory s sources).result = .ok paths) :
    paths = sources.map fun source => sourcePath directory source.1 := by
  induction sources generalizing s paths with
  | nil => exact (Except.ok.inj h).symm
  | cons source sources ih =>
    rw [writeAll_cons] at h
    split at h
    · cases h
    · next s' _ =>
      cases hr : (writeAll directory s' sources).result with
      | error error => simp [hr, Except.map] at h
      | ok paths' =>
        simp only [hr, Except.map, Except.ok.injEq] at h
        rw [← h, ih hr, List.map_cons]

/-! ### The parts of a run -/

/-- A run whose parts succeed: a package comes of the text, the directory is prepared, and the
sources are written. -/
theorem generate_of_parts {count : Nat} (ht : (translate package text).result = .ok product)
    (hp : (prepare (storeDirectory output package) force s).result = .ok count)
    (hw : (writeAll (storeDirectory output package)
      (prepare (storeDirectory output package) force s).system product.package.sources).result =
        .ok paths) :
    (generate output package force text s).result =
        .ok ((product.stats.recordRemoved count).recordWritten product.package.size) ∧
      (generate output package force text s).system = (writeAll (storeDirectory output package)
        (prepare (storeDirectory output package) force s).system product.package.sources).system :=
    by
  obtain ⟨hresult, hsystem⟩ := generate_of_ok output force s ht
  have hcount : paths.length = product.package.size := by
    rw [paths_of_writeAll hw, List.length_map, Java.length_sources]
  rw [hresult, hsystem]
  simp only [writePackage]
  rw [(Effect.andThen_of_ok _ hp).1, (Effect.andThen_of_ok _ hp).2, (Effect.andThen_of_ok _ hw).1,
    (Effect.andThen_of_ok _ hw).2, hcount]
  exact ⟨rfl, rfl⟩

/-- All parts of a run that succeeds do. -/
theorem exists_parts_of_generate (h : (generate output package force text s).result = .ok stats) :
    ∃ product count paths, (translate package text).result = .ok product ∧
      (prepare (storeDirectory output package) force s).result = .ok count ∧
      (writeAll (storeDirectory output package)
        (prepare (storeDirectory output package) force s).system product.package.sources).result =
          .ok paths := by
  cases ht : (translate package text).result with
  | error error =>
    rw [(generate_of_error output force s ht).1] at h
    cases h
  | ok product =>
    rw [(generate_of_ok output force s ht).1] at h
    cases hw : (writePackage output package force product.package product.stats s).result with
    | error error => simp [hw, Except.map] at h
    | ok written =>
      simp only [writePackage] at hw
      obtain ⟨count, hp, hw⟩ := Effect.exists_of_andThen_eq_ok hw
      obtain ⟨paths, hw, -⟩ := Effect.exists_of_andThen_eq_ok hw
      exact ⟨product, count, paths, rfl, hp, hw⟩

/-- The package of a text is that of a model whose types are named by their paths, and no files have
been counted. -/
theorem exists_named_of_translate (h : (translate package text).result = .ok product) :
    ∃ m : Model, m.Named ∧ product.package = (Java.translate m package).package ∧
      product.stats.removed = 0 ∧ product.stats.written = 0 := by
  obtain ⟨document, schemas, x, -, hc, hx, hempty, rfl⟩ := exists_extract_of_translate h
  refine ⟨(Schema.resolve x.model x.errors).model, fun path t ht => ?_, rfl, ?_, ?_⟩
  · rw [Schema.type?_resolve_of_isEmpty (Schema.extract_wellPlaced hx).indexed hempty] at ht
    exact Schema.extract_named hc hx path t ht
  · rw [statsOf, part_recordPackage Stats.removed (fun _ _ => rfl) fun _ _ => rfl]
    rfl
  · rw [statsOf, part_recordPackage Stats.written (fun _ _ => rfl) fun _ _ => rfl]
    rfl

/-- No name of a source has a slash. -/
theorem not_mem_of_mem_sources (h : (translate package text).result = .ok product)
    {source : String × String} (hsource : source ∈ product.package.sources) :
    '/' ∉ source.1.toList := by
  obtain ⟨m, hm, hp, -⟩ := exists_named_of_translate h
  obtain ⟨path, t, ht, hname⟩ := Java.exists_of_mem_sources (hp ▸ hsource)
  exact hname ▸ not_mem_typeName hm ht

/-- The names of the sources are those of the types. -/
theorem contains_iff_mem_sources (h : (translate package text).result = .ok product) :
    product.package.contains name = true ↔ name ∈ product.package.sources.map Prod.fst := by
  obtain ⟨m, -, hp, -⟩ := exists_named_of_translate h
  rw [hp, Java.mem_sources_iff]

/-! ### Runs -/

/-- The second one is the first one with the sources of a package stored in a directory. -/
structure Stores (s : System) (directory : String) (store : Location) (removed : List Location)
    (p : Java.Package) (s' : System) : Prop where
  isTree : s'.IsTree
  workingDirectory : s'.workingDirectory = s.workingDirectory
  isDirectoryAt : s'.IsDirectoryAt directory store
  directories {l : Location} : s.entry? l = some .directory → s'.entry? l = some .directory
  ofEnum {name : String} {e : Java.Enum} : p.enums[name]? = some e →
    s'.entry? (sourceLocation store name) = some (.file (Files.encode (e.source p.name)))
  ofClass {name : String} {c : Java.Class} : p.enums[name]? = none → p.classes[name]? = some c →
    s'.entry? (sourceLocation store name) = some (.file (Files.encode (c.source p.name)))
  gone {l : Location} : l ∈ removed → ¬IsStored store p l → s'.entry? l = none
  kept {l : Location} {e : Entry} : s.entry? l = some e → l ∉ removed → ¬IsStored store p l →
    s'.entry? l = some e
  missing {l : Location} : s.entry? l = none → ¬IsStored store p l →
    s'.entry? l = if l ∈ s.way directory then some .directory else none
  nodup : removed.Nodup
  mem_removed {l : Location} : l ∈ removed ↔ IsSourceIn s store l ∧ ¬Overlooked s directory store

/-- When the directory has been prepared and the sources written, they are stored. -/
theorem Prepared.stores {removed : List Location} {m : Model}
    (hp : Prepared s directory store removed s₁)
    (hw : Writes s₁ store (Java.translate m package).package.sources s') :
    Stores s directory store removed (Java.translate m package).package s' := by
  have hother : ∀ {l}, ¬IsStored store (Java.translate m package).package l →
      s'.entry? l = s₁.entry? l := by
    intro l hl
    refine hw.other fun source hsource he => hl ⟨source.1, ?_, he⟩
    exact Java.mem_sources_iff.mp (List.mem_map_of_mem hsource)
  have hsource := fun name => hw.source name
  simp only [Java.sourceOf?_sources] at hsource
  refine
    { isTree := hw.isTree
      workingDirectory := hw.workingDirectory.trans hp.workingDirectory
      isDirectoryAt := hp.isDirectoryAt.mono (fun _ => hw.directories) hw.workingDirectory
      directories := fun hl => hw.directories (hp.directories hl)
      ofEnum := fun {name e} he => ?_
      ofClass := fun {name c} he hc => ?_
      gone := fun hl hnot => (hother hnot).trans (hp.gone hl)
      kept := fun he hl hnot => (hother hnot).trans (hp.kept he hl)
      missing := fun hnone hnot => (hother hnot).trans (hp.missing hnone)
      nodup := hp.nodup
      mem_removed := hp.mem_removed }
  · rw [hsource, he, Java.name_translate]
    rfl
  · rw [hsource, he, hc, Java.name_translate]
    rfl

/-- A directory that the path led to is the one that sources are stored in. -/
theorem Stores.store_eq {removed : List Location} {p : Java.Package}
    (h : Stores s directory store removed p s') (hd : s.IsDirectoryAt directory l) : store = l :=
  h.isDirectoryAt.unique (hd.mono (fun _ => h.directories) h.workingDirectory)

/-- A run that succeeds stores the sources of the package. -/
theorem exists_stores_of_generate (hs : s.IsTree)
    (h : (generate output package force text s).result = .ok stats) :
    ∃ product store removed, (translate package text).result = .ok product ∧
      Stores s (storeDirectory output package) store removed product.package
        (generate output package force text s).system ∧
      (force = false → removed = []) ∧
      (∀ name, product.package.contains name = true →
        Fits (storeDirectory output package) (sourceName name)) ∧
      stats.removed = removed.length ∧ stats.written = product.package.size := by
  obtain ⟨product, count, paths, ht, hprepare, hwrite⟩ := exists_parts_of_generate h
  obtain ⟨hresult, hsystem⟩ := generate_of_parts ht hprepare hwrite
  obtain ⟨m, -, hp, hremoved, hwritten⟩ := exists_named_of_translate ht
  obtain ⟨store, removed, hprepared, rfl, hforce⟩ := exists_prepared hs hprepare
  obtain rfl := Except.ok.inj (h.symm.trans hresult)
  have hnames : ∀ source ∈ product.package.sources, '/' ∉ source.1.toList := fun _ =>
    not_mem_of_mem_sources ht
  have hwrites := writes_of_writeAll hprepared.isDirectoryAt hnames hprepared.isTree hwrite
  refine ⟨product, store, removed, ht, ?_, hforce, fun name hname => ?_, ?_, ?_⟩
  · rw [hsystem, hp]
    exact hprepared.stores (hp ▸ hwrites)
  · obtain ⟨source, hsource, rfl⟩ := List.mem_map.mp ((contains_iff_mem_sources ht).mp hname)
    exact ((exists_writeAll_iff hprepared.isDirectoryAt hnames).mp ⟨paths, hwrite⟩ source
      hsource).1
  · simp only [Stats.recordRemoved, Stats.recordWritten, hremoved, Nat.zero_add]
  · simp only [Stats.recordRemoved, Stats.recordWritten, hwritten, Nat.zero_add]

/-- **What a run stores.**  For every tree of files, every output, package name and text, and with
or without leave to delete: a run that succeeds stores the sources of the package and changes
nothing else, but for making the directories on the way that are missing and deleting sources.  As
many are counted as removed as were deleted, which are none without leave, and as many as written as
the package has types.

If the output has no step up, the sources that were deleted are all that there were in the store
directory, and the directories that were made are those above it and itself. -/
theorem generate_stores (hs : s.IsTree) (hpackage : Java.isPackageName package = true)
    (h : (generate output package force text s).result = .ok stats) :
    ∃ product store removed, (translate package text).result = .ok product ∧
      Stores s (storeDirectory output package) store removed product.package
        (generate output package force text s).system ∧
      (force = false → removed = []) ∧
      stats.removed = removed.length ∧ stats.written = product.package.size ∧
      (".." ∉ Files.Path.names output → (∀ l, l ∈ removed ↔ IsSourceIn s store l) ∧
        ∀ l ∈ s.way (storeDirectory output package), l <+: store) := by
  obtain ⟨product, store, removed, ht, hstores, hforce, -, hremoved, hwritten⟩ :=
    exists_stores_of_generate hs h
  refine ⟨product, store, removed, ht, hstores, hforce, hremoved, hwritten, fun hup => ⟨?_, ?_⟩⟩
  · have hnot : ¬Overlooked s (storeDirectory output package) store := fun ho =>
      hup (mem_names_of_overlooked hs hpackage hstores.workingDirectory hstores.isDirectoryAt ho)
    intro l
    rw [hstores.mem_removed, and_iff_left hnot]
  · have hup : ".." ∉ Files.Path.names (storeDirectory output package) := by
      rw [names_storeDirectory hpackage, List.mem_append]
      exact not_or.mpr
        ⟨hup, fun hmem => (isFileName_of_mem_packageSegments hpackage hmem).ne_dots rfl⟩
    intro l hl
    rw [← System.way_congr hstores.workingDirectory] at hl
    exact System.isPrefix_of_mem_way hup hstores.isDirectoryAt hl

/-- The source in the store directory is deleted, and counted. -/
theorem withSource_stored : ∃ stats product,
    (generate "out" "pets" true soundText withSource).result = .ok stats ∧
      (translate "pets" soundText).result = .ok product ∧
      Stores withSource (storeDirectory "out" "pets") ["home", "out", "pets"]
        [["home", "out", "pets", "Old.java"]] product.package
        (generate "out" "pets" true soundText withSource).system ∧
      stats.removed = 1 ∧ stats.written = product.package.size := by
  obtain ⟨stats, hstats, hcount⟩ := Schema.exists_of_toOption_any
    (show (generate "out" "pets" true soundText withSource).result.toOption.any
      (·.removed = 1) = true by decide +kernel)
  obtain ⟨product, store, removed, ht, hstores, -, hremoved, hwritten, hall⟩ :=
    generate_stores (show withSource.IsTree by decide +kernel) (by decide +kernel) hstats
  obtain rfl : store = ["home", "out", "pets"] :=
    hstores.isDirectoryAt.unique ⟨by decide +kernel, by decide +kernel⟩
  have hold : ["home", "out", "pets", "Old.java"] ∈ removed :=
    ((hall (by decide +kernel)).1 _).mpr
      ⟨"Old.java", Files.encode "class Old", rfl, by decide +kernel, by decide +kernel⟩
  have hcount := of_decide_eq_true hcount
  obtain ⟨l, rfl⟩ := List.length_eq_one_iff.mp (hremoved.symm.trans hcount)
  obtain rfl := List.mem_singleton.mp hold
  exact ⟨stats, product, hstats, ht, hstores, hcount, hwritten⟩

/-- With leave to delete, the source in the store directory stays, and is not counted: the way to
the directory leads through one that is missing. -/
theorem oldSource_stays : withSource.IsTree ∧ Java.isPackageName "pets" = true ∧
    IsSourceIn withSource ["home", "out", "pets"] ["home", "out", "pets", "Old.java"] ∧
    ∃ stats, (generate "missing/../out" "pets" true soundText withSource).result = .ok stats ∧
      stats.removed = 0 ∧
      (generate "missing/../out" "pets" true soundText withSource).system.IsDirectoryAt
        (storeDirectory "missing/../out" "pets") ["home", "out", "pets"] ∧
      (generate "missing/../out" "pets" true soundText withSource).system.entry?
        ["home", "out", "pets", "Old.java"] = some (.file (Files.encode "class Old")) := by
  obtain ⟨stats, hstats, hcount⟩ := Schema.exists_of_toOption_any
    (show (generate "missing/../out" "pets" true soundText withSource).result.toOption.any
      (·.removed = 0) = true by decide +kernel)
  exact ⟨by decide +kernel, by decide +kernel,
    ⟨"Old.java", Files.encode "class Old", rfl, by decide +kernel, by decide +kernel⟩,
    stats, hstats, of_decide_eq_true hcount, ⟨by decide +kernel, by decide +kernel⟩,
    by decide +kernel⟩

end SchemaBeans.Generation
