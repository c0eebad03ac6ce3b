import SchemaBeans.Proofs.Generation.Stored

/-!
# Generation — files stay in the store directory

Neither the names in a document nor the name of a package lead out of the output directory.  The
segments of the package's name are file names, so its dots become slashes and its directory is below
the output (`isBelow_storeDirectory`), another one for each package (`apart_storeDirectory`).  The
name of a type has no slash, no dot and no null character, whatever the document
(`isPlain_of_contains`), so a source is a file right in that directory.  No other file is written,
even where writing stops halfway (`exists_of_targets_writeAll`).
-/

namespace SchemaBeans.Generation

open Files (Location System)
open Files.Path (IsFileName endsWithSlash isAbsolute join joinAll names)
open Text (joinWith splitOn)

variable {s : System} {output package package' text directory name path : String} {force : Bool}
  {here there l m : Location} {segments : List String} {sources : List (String × String)}
  {product : Product}

/-! ### Paths -/

theorem join_ne_empty (h : IsFileName name) : join path name ≠ "" := by
  intro he
  have htext : (join path name).toList = _ := Files.Path.toList_join h
  rw [he] at htext
  exact h.ne_empty (String.ext (List.append_eq_nil_iff.mp htext.symm).2)

/-- What is appended to a file's path follows a slash. -/
theorem toList_join_join (h : IsFileName directory) (hn : IsFileName name) :
    (join (join path directory) name).toList =
      (join path directory).toList ++ '/' :: name.toList := by
  rw [Files.Path.toList_join hn, Files.Path.endsWithSlash_join h,
    if_neg (by simp [join_ne_empty h]), List.append_assoc, List.singleton_append]

section JoinAll

variable (h : ∀ segment ∈ segments, IsFileName segment)
include h

/-- File names are appended with slashes between them. -/
theorem toList_joinAll (hne : segments ≠ []) : (joinAll path segments).toList =
    path.toList ++ (if path = "" ∨ endsWithSlash path = true then [] else ['/']) ++
      joinWith '/' (segments.map String.toList) := by
  obtain ⟨segment, segments, rfl⟩ := List.exists_cons_of_ne_nil hne
  clear hne
  induction segments generalizing path segment with
  | nil => exact Files.Path.toList_join (h segment List.mem_cons_self)
  | cons next rest ih =>
    obtain ⟨hsegment, hrest⟩ := List.forall_mem_cons.mp h
    have hjoin : joinAll path (segment :: next :: rest) =
        joinAll (join path segment) (next :: rest) := rfl
    rw [hjoin, ih next hrest, Files.Path.endsWithSlash_join hsegment,
      if_neg (by simp [join_ne_empty hsegment]), Files.Path.toList_join hsegment]
    simp [joinWith]

theorem isAbsolute_joinAll : isAbsolute (joinAll path segments) = isAbsolute path := by
  induction segments generalizing path with
  | nil => rfl
  | cons segment segments ih =>
    obtain ⟨hsegment, hsegments⟩ := List.forall_mem_cons.mp h
    rw [joinAll, List.foldl_cons, ← joinAll, ih hsegments, Files.Path.isAbsolute_join hsegment]

/-- File names lead down, one directory after the other. -/
theorem eq_append_of_walk (hw : s.walk here segments = .ok there) : there = here ++ segments := by
  induction segments generalizing here with
  | nil => simpa using (Except.ok.inj hw).symm
  | cons segment segments ih =>
    obtain ⟨hsegment, hsegments⟩ := List.forall_mem_cons.mp h
    obtain ⟨-, next, hnext, hw⟩ := System.walk_cons_eq_ok.mp hw
    rw [System.step_of_isFileName hsegment] at hnext
    split at hnext
    · cases hnext
    · obtain rfl := Except.ok.inj hnext
      rw [ih hsegments hw, List.append_assoc, List.singleton_append]

end JoinAll

/-! ### Store directories -/

/-- The segments of a package's name are what it is made of. -/
theorem packageSegments_injective : Function.Injective Java.packageSegments :=
  fun _ _ => Text.eq_of_map_splitOn

/-- The directory of the package below the output: its path is that of the output and then the
package's name with slashes for dots, and each segment of the name leads one directory further
down. -/
structure IsBelow (output package : String) : Prop where
  text : (storeDirectory output package).toList =
    output.toList ++ (if output = "" ∨ endsWithSlash output = true then [] else ['/']) ++
      joinWith '/' (splitOn '.' package.toList)
  names : names (storeDirectory output package) = names output ++ Java.packageSegments package
  isFileName : ∀ segment ∈ Java.packageSegments package, IsFileName segment
  location : ∀ {s : System} {m l : Location}, s.IsDirectoryAt output m →
    s.IsDirectoryAt (storeDirectory output package) l → l = m ++ Java.packageSegments package

/-- The directories of the packages have different paths, and are different ones in every system. -/
structure AreApart (output package package' : String) : Prop where
  text : storeDirectory output package ≠ storeDirectory output package'
  location : ∀ {s : System} {l : Location}, s.IsDirectoryAt (storeDirectory output package) l →
    ¬s.IsDirectoryAt (storeDirectory output package') l

section StoreDirectory

variable (h : Java.isPackageName package = true)
include h

theorem toList_storeDirectory : (storeDirectory output package).toList =
    output.toList ++ (if output = "" ∨ endsWithSlash output = true then [] else ['/']) ++
      joinWith '/' (splitOn '.' package.toList) := by
  have hsegments : (Java.packageSegments package).map String.toList =
      splitOn '.' package.toList := by simp [Java.packageSegments]
  rw [storeDirectory_eq_joinAll h, toList_joinAll (fun _ => isFileName_of_mem_packageSegments h)
    (packageSegments_ne_nil package), hsegments]

/-- The path of the directory ends with the last segment of the package's name. -/
theorem exists_join_of_isPackageName (output : String) :
    ∃ parent segment, IsFileName segment ∧ storeDirectory output package = join parent segment := by
  have hlast := List.dropLast_append_getLast (packageSegments_ne_nil package)
  refine ⟨joinAll output (Java.packageSegments package).dropLast, _,
    isFileName_of_mem_packageSegments h (List.getLast_mem (packageSegments_ne_nil package)), ?_⟩
  rw [storeDirectory_eq_joinAll h]
  conv_lhs => rw [← hlast, joinAll, List.foldl_concat]
  rfl

theorem start_storeDirectory : s.start (storeDirectory output package) = s.start output := by
  rw [System.start, System.start, storeDirectory_eq_joinAll h,
    isAbsolute_joinAll fun _ => isFileName_of_mem_packageSegments h]

/-- The segments of the package's name lead from where the output leads to the directory. -/
theorem exists_of_isDirectoryAt_storeDirectory
    (hd : s.IsDirectoryAt (storeDirectory output package) l) :
    ∃ m, s.walk (s.start output) (names output) = .ok m ∧
      l = m ++ Java.packageSegments package := by
  have hwalk := hd.walk
  rw [start_storeDirectory h, names_storeDirectory h, System.walk_append] at hwalk
  cases hm : s.walk (s.start output) (names output) with
  | error fault => simp [hm, Except.bind] at hwalk
  | ok m =>
    rw [hm] at hwalk
    exact ⟨m, rfl, eq_append_of_walk (fun _ => isFileName_of_mem_packageSegments h) hwalk⟩

theorem isBelow_storeDirectory (output : String) : IsBelow output package where
  text := toList_storeDirectory h
  names := names_storeDirectory h
  isFileName _ := isFileName_of_mem_packageSegments h
  location ho hd := by
    obtain ⟨m, hm, rfl⟩ := exists_of_isDirectoryAt_storeDirectory h hd
    rw [Except.ok.inj (hm.symm.trans ho.walk)]

/-- Packages have directories of their own. -/
theorem areApart_storeDirectory (h' : Java.isPackageName package' = true) (hne : package' ≠ package)
    (output : String) : AreApart output package package' where
  text he := by
    have hnames := congrArg Files.Path.names he
    rw [names_storeDirectory h, names_storeDirectory h', List.append_cancel_left_eq] at hnames
    exact hne (packageSegments_injective hnames).symm
  location hd hd' := by
    obtain ⟨m, hm, rfl⟩ := exists_of_isDirectoryAt_storeDirectory h hd
    obtain ⟨m', hm', he⟩ := exists_of_isDirectoryAt_storeDirectory h' hd'
    obtain rfl := Except.ok.inj (hm.symm.trans hm')
    exact hne (packageSegments_injective (List.append_cancel_left he)).symm

end StoreDirectory

/-! ### Sources -/

/-- The name has neither of the separators of paths and names, and no null character. -/
structure IsPlain (name : String) : Prop where
  noSlash : '/' ∉ name.toList
  noDot : '.' ∉ name.toList
  noNull : '\x00' ∉ name.toList

/-- **Names of types.**  The names of the types of a package are plain, whatever the text. -/
theorem isPlain_of_contains (ht : (translate package text).result = .ok product)
    (h : product.package.contains name = true) : IsPlain name := by
  obtain ⟨m, hm, hp, -⟩ := exists_named_of_translate ht
  obtain ⟨source, hsource, rfl⟩ := List.mem_map.mp ((contains_iff_mem_sources ht).mp h)
  obtain ⟨path, t, htype, hname⟩ := Java.exists_of_mem_sources (hp ▸ hsource)
  rw [← hname]
  exact ⟨not_mem_typeName_of_isBarred Naming.isBarred_slash hm htype,
    not_mem_typeName_of_isBarred Naming.isBarred_dot hm htype,
    not_mem_typeName_of_isBarred Naming.isBarred_null hm htype⟩

/-- The path is that of the store directory and one file name, the type's name with the extension of
sources.  If the output leads to a directory, the segments of the package's name and then the file
name lead from there to the file. -/
structure IsSourceAt (output package name path : String) : Prop where
  text : path = storeDirectory output package ++ "/" ++ name ++ ".java"
  isFileName : IsFileName (name ++ ".java")
  names : names path = names (storeDirectory output package) ++ [name ++ ".java"]
  location : ∀ {s : System} {m l : Location}, s.IsDirectoryAt output m → s.locate path = .ok l →
    l = m ++ Java.packageSegments package ++ [name ++ ".java"]

theorem sourceName_eq (name : String) : name ++ "." ++ sourceExtension = name ++ ".java" := by
  rw [String.append_assoc]
  rfl

theorem isSourceAt_sourcePath (h : Java.isPackageName package = true) (hname : '/' ∉ name.toList)
    (output : String) :
    IsSourceAt output package name (sourcePath (storeDirectory output package) name) := by
  have hfile : IsFileName (name ++ ".java") := sourceName_eq name ▸ isFileName_source hname
  rw [sourcePath, sourceName_eq]
  refine ⟨?_, hfile, Files.Path.names_join hfile, fun {s m l} ho hl => ?_⟩
  · obtain ⟨parent, segment, hsegment, hdirectory⟩ := exists_join_of_isPackageName h output
    refine String.ext ?_
    rw [hdirectory, toList_join_join hsegment hfile]
    simp [String.toList_append]
  · have hdown : ∀ segment ∈ Java.packageSegments package ++ [name ++ ".java"],
        IsFileName segment := by
      rw [List.forall_mem_append, List.forall_mem_singleton]
      exact ⟨fun _ => isFileName_of_mem_packageSegments h, hfile⟩
    rw [System.locate] at hl
    split at hl
    · cases hl
    · rw [System.start_join s hfile, start_storeDirectory h, Files.Path.steps,
        Files.Path.endsWithSlash_join hfile, Files.Path.names_join hfile, names_storeDirectory h,
        if_neg Bool.false_ne_true, List.append_nil, List.append_assoc, System.walk_append,
        ho.walk] at hl
      rw [eq_append_of_walk hdown hl, List.append_assoc]

/-! ### Writing -/

/-- A file has been written at the path, or could not be. -/
def Effect.Targets {α : Type} (e : Effect α) (path : String) : Prop :=
  .wrote path ∈ e.events ∨ ∃ fault, e.result = .error (.files .write path fault)

theorem Effect.targets_of_andThen {α β : Type} {e : Effect α} {next : α → System → Effect β}
    (h : (e.andThen next).Targets path) :
    e.Targets path ∨ ∃ a, e.result = .ok a ∧ (next a e.system).Targets path := by
  rw [Effect.Targets, Effect.andThen] at h
  split at h
  · next error he =>
    refine Or.inl (h.imp_right ?_)
    rintro ⟨fault, hfault⟩
    exact ⟨fault, by rw [he, Except.error.inj hfault]⟩
  · next a ha =>
    rcases h with h | h
    · rcases List.mem_append.mp h with h | h
      · exact Or.inl (Or.inl h)
      · exact Or.inr ⟨a, ha, Or.inl h⟩
    · exact Or.inr ⟨a, ha, Or.inr h⟩

theorem not_targets_deleteAll (s : System) (paths : List String) (path : String) :
    ¬(deleteAll s paths).Targets path := by
  rintro (h | ⟨fault, h⟩)
  · exact writesNothing_deleteAll s paths path h
  · induction paths generalizing s with
    | nil => cases h
    | cons next paths ih =>
      rw [deleteAll] at h
      split at h
      · cases h
      · exact ih _ h

theorem not_targets_clean (directory : String) (force : Bool) (s : System) (path : String) :
    ¬(clean directory force s).Targets path := by
  rw [clean]
  split
  · simp [Effect.Targets]
  split
  · simp [Effect.Targets]
  split
  · intro h
    rcases Effect.targets_of_andThen h with h | ⟨_, _, h⟩
    · exact not_targets_deleteAll _ _ path h
    · simp [Effect.Targets] at h
  · simp [Effect.Targets]

/-- No file is written when the directory is prepared. -/
theorem not_targets_prepare (directory : String) (force : Bool) (s : System) (path : String) :
    ¬(prepare directory force s).Targets path := by
  rw [prepare]
  split
  · exact not_targets_clean directory force s path
  · simp [Effect.Targets]
  · split <;> simp [Effect.Targets]
  · simp [Effect.Targets]

/-- The paths that sources are written at are theirs, whether or not all of them can be written. -/
theorem exists_of_targets_writeAll (h : (writeAll directory s sources).Targets path) :
    ∃ source ∈ sources, path = sourcePath directory source.1 := by
  induction sources generalizing s with
  | nil => simp [Effect.Targets, writeAll_nil] at h
  | cons source sources ih =>
    rw [Effect.Targets, writeAll_cons] at h
    split at h
    · next fault _ =>
      obtain h | ⟨fault', h⟩ := h
      · cases h
      · simp only [Except.error.injEq, Error.files.injEq, true_and] at h
        exact ⟨source, List.mem_cons_self, h.1.symm⟩
    · next s' _ =>
      have hrest : path = sourcePath directory source.1 ∨
          (writeAll directory s' sources).Targets path := by
        obtain h | ⟨fault, h⟩ := h
        · rcases List.mem_cons.mp h with h | h
          · exact Or.inl (Journal.Event.wrote.inj h)
          · exact Or.inr (Or.inl h)
        · cases hr : (writeAll directory s' sources).result with
          | ok paths => simp [hr, Except.map] at h
          | error error =>
            rw [hr] at h
            exact Or.inr (Or.inr ⟨fault, hr.trans h⟩)
      rcases hrest with rfl | hrest
      · exact ⟨source, List.mem_cons_self, rfl⟩
      · obtain ⟨source', hmem, hpath⟩ := ih hrest
        exact ⟨source', List.mem_cons_of_mem _ hmem, hpath⟩

/-- The paths at which writing a package writes, or tries to, are those of its types' sources. -/
theorem exists_of_targets_writePackage {p : Java.Package} {stats : Stats}
    (h : (writePackage output package force p stats s).Targets path) :
    ∃ source ∈ p.sources, path = sourcePath (storeDirectory output package) source.1 := by
  simp only [Effect.Targets, writePackage, List.mem_append] at h
  have hempty : .wrote path ∉ if p.isEmpty then [Journal.Event.emptyPackage p.name] else [] := by
    split <;> simp
  rw [or_iff_right hempty] at h
  rcases Effect.targets_of_andThen h with h | ⟨removed, -, h⟩
  · exact absurd h (not_targets_prepare _ _ _ path)
  rcases Effect.targets_of_andThen h with h | ⟨paths, -, h⟩
  · exact exists_of_targets_writeAll h
  · simp [Effect.Targets] at h

theorem paths_of_writePackage {p : Java.Package} {stats : Stats} {written : Written}
    (h : (writePackage output package force p stats s).result = .ok written) :
    written.paths = p.sources.map fun source =>
      sourcePath (storeDirectory output package) source.1 := by
  simp only [writePackage] at h
  obtain ⟨removed, -, h⟩ := Effect.exists_of_andThen_eq_ok h
  obtain ⟨paths, hpaths, h⟩ := Effect.exists_of_andThen_eq_ok h
  obtain rfl := Except.ok.inj h
  exact paths_of_writeAll hpaths

/-- Writing the package touches no file but the sources of its types, one for each name in the store
directory. -/
structure IsConfined (output package : String) (p : Java.Package) : Prop where
  plain {name : String} (h : p.contains name = true) : IsPlain name
  targets {force : Bool} {stats : Stats} {s : System} {path : String}
    (h : (writePackage output package force p stats s).Targets path) :
    ∃ name, p.contains name = true ∧ IsSourceAt output package name path
  paths {force : Bool} {stats : Stats} {s : System} {written : Written}
    (h : (writePackage output package force p stats s).result = .ok written) (path : String) :
    path ∈ written.paths ↔ ∃ name, p.contains name = true ∧ IsSourceAt output package name path

/-- The path of a type's source is its only one. -/
theorem IsSourceAt.eq_sourcePath (h : Java.isPackageName package = true)
    (hname : '/' ∉ name.toList) (hpath : IsSourceAt output package name path) :
    path = sourcePath (storeDirectory output package) name :=
  hpath.text.trans (isSourceAt_sourcePath h hname output).text.symm

theorem isConfined_of_translate (h : Java.isPackageName package = true)
    (ht : (translate package text).result = .ok product) (output : String) :
    IsConfined output package product.package where
  plain := isPlain_of_contains ht
  targets htargets := by
    obtain ⟨source, hsource, rfl⟩ := exists_of_targets_writePackage htargets
    exact ⟨source.1, (contains_iff_mem_sources ht).mpr (List.mem_map_of_mem hsource),
      isSourceAt_sourcePath h (not_mem_of_mem_sources ht hsource) output⟩
  paths hwritten path := by
    rw [paths_of_writePackage hwritten, List.mem_map]
    refine ⟨?_, ?_⟩
    · rintro ⟨source, hsource, rfl⟩
      exact ⟨source.1, (contains_iff_mem_sources ht).mpr (List.mem_map_of_mem hsource),
        isSourceAt_sourcePath h (not_mem_of_mem_sources ht hsource) output⟩
    · rintro ⟨name, hname, hpath⟩
      obtain ⟨source, hsource, rfl⟩ := List.mem_map.mp ((contains_iff_mem_sources ht).mp hname)
      exact ⟨source, hsource,
        (hpath.eq_sourcePath h (isPlain_of_contains ht hname).noSlash).symm⟩

/-- **Confinement.**  For every output and every name of a package: its store directory is below the
output and is no other package's, and for every text that a package comes of, all files that are
written are the sources of its types, right in that directory. -/
theorem sources_confined (h : Java.isPackageName package = true) (output : String) :
    IsBelow output package ∧
      (∀ package', Java.isPackageName package' = true → package' ≠ package →
        AreApart output package package') ∧
      ∀ {text : String} {product : Product}, (translate package text).result = .ok product →
        IsConfined output package product.package :=
  ⟨isBelow_storeDirectory h output, fun _ h' hne => areApart_storeDirectory h h' hne output,
    fun ht => isConfined_of_translate h ht output⟩

/-- An object whose name is a way up, and a property with a dot in its name. -/
def strayText : String :=
  "components: \x7bschemas: \x7b../a: \x7btype: object, " ++
    "properties: \x7bb.c: \x7btype: object\x7d\x7d\x7d\x7d\x7d"

/-- What is left of the names leads to files in the store directory. -/
theorem strayText_confined : Java.isPackageName "dev.pets" = true ∧
    Java.isPackageName "dev.dogs" = true ∧ AreApart "out" "dev.pets" "dev.dogs" ∧
    IsBelow "out" "dev.pets" ∧ ∃ product written,
      (translate "dev.pets" strayText).result = .ok product ∧
      (writePackage "out" "dev.pets" false product.package product.stats {}).result =
        .ok written ∧
      written.paths = ["out/dev/pets/A.java", "out/dev/pets/ABC.java"] ∧
      IsConfined "out" "dev.pets" product.package := by
  have hpackage : Java.isPackageName "dev.pets" = true := by decide +kernel
  have hother : Java.isPackageName "dev.dogs" = true := by decide +kernel
  obtain ⟨hbelow, hapart, hconfined⟩ := sources_confined hpackage "out"
  obtain ⟨product, hproduct, hwritten⟩ := Schema.exists_of_toOption_any
    (show (translate "dev.pets" strayText).result.toOption.any (fun product =>
      (writePackage "out" "dev.pets" false product.package product.stats {}).result.toOption.any
        (·.paths = ["out/dev/pets/A.java", "out/dev/pets/ABC.java"])) = true by
      decide +kernel)
  obtain ⟨written, hresult, hpaths⟩ := Schema.exists_of_toOption_any hwritten
  exact ⟨hpackage, hother, hapart "dev.dogs" hother (by decide), hbelow, product, written, hproduct,
    hresult, of_decide_eq_true hpaths, hconfined hproduct⟩

end SchemaBeans.Generation
